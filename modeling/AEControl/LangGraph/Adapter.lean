/-
  `langgraph.py`: `LangGraphRuntimeAdapter.execute`, from the parts of a stream to the output.

  Steps are appended to one trajectory while the stream is read and while the final state is
  checked, and stay there when something raises: a computation gives the steps it has appended
  together with its result.  `jsonValue` is the only conversion that redacts.
-/
import AEControl.Lib.PyValue
import AEControl.Evaluation.Engine

namespace AEControl.LangGraph

open PyValue

export Evaluation (ExecutionStatus)

/-! ## Data -/

/-- `TrajectoryStep.kind`. -/
inductive StepKind where
  | message
  | toolCall
  | toolResult
  | graphNode
  | graphEvent
  | error
  | final
  deriving DecidableEq

/-- `TrajectoryStep`: its kind and data. -/
structure TrajectoryStep where
  kind : StepKind
  data : List (String × Json)

/-- `LangGraphCaptureOptions`. -/
structure CaptureOptions where
  maxEvents : ℕ
  maxEventBytes : ℕ
  maxTotalBytes : ℕ
  capturePayloads : Bool
  redactedKeys : List String
  maxEvents_range : 1 ≤ maxEvents ∧ maxEvents ≤ 100000
  maxEventBytes_range : 1024 ≤ maxEventBytes ∧ maxEventBytes ≤ 10000000
  maxTotalBytes_range : 1024 ≤ maxTotalBytes ∧ maxTotalBytes ≤ 100000000

/-- `LangGraphOutputMapping`. -/
structure OutputMapping where
  finalResponse : String := "final_response"
  patch : String := "patch"
  modifiedFiles : String := "modified_files"
  publicTestOutput : String := "public_test_output"
  hiddenTestOutput : String := "hidden_test_output"
  status : String := "status"
  toolCalls : String := "tool_calls"
  toolResults : String := "tool_results"

/-- `LangGraphRuntimeAdapter`, with what it has from the interpreter. -/
structure Adapter where
  graphName : String
  mapping : OutputMapping
  capture : CaptureOptions
  python : Python
  /-- The text of pydantic's `ValidationError` for a role. -/
  roleError : String → String

/-- The roles of a `Message`. -/
def messageRoles : List String := ["system", "user", "assistant", "tool"]

/-- `Message`. -/
structure Message where
  role : String
  content : String
  role_mem : role ∈ messageRoles

/-- `AgentOutput`. -/
structure AgentOutput where
  finalResponse : Option Message
  trajectory : List TrajectoryStep
  patch : String
  modifiedFiles : List String
  publicTestOutput : String
  hiddenTestOutput : String
  status : ExecutionStatus
  error : Option PyError
  runtimeMetadata : List (String × Json)

/-- What the graph does in an execution: an exception before it streams, or its parts and an
    exception after them. -/
structure Execution where
  before : Option PyError
  parts : List PyValue
  after : Option PyError

def valueError (message : String) : PyError := ⟨"ValueError", message, true⟩

/-! ## Conversions -/

variable (a : Adapter)

/-- `str(key).lower() in redacted_keys`, for the text of a key. -/
def isRedacted (P : Python) (redactedKeys : List String) (key : String) : Bool :=
  P.lower key ∈ redactedKeys

mutual

/-- `_json_value`, which may call itself so many times inside each other.  A model and a dataclass
    are converted in the call they are met in. -/
def jsonValue (P : Python) (redactedKeys : List String) : ℕ → PyValue → Except PyError Json
  | 0, _ => .error P.recursionError
  | _ + 1, .null => .ok .null
  | _ + 1, .bool b => .ok (.bool b)
  | _ + 1, .int n => .ok (.int n)
  | _ + 1, .float x => .ok (.float x)
  | _ + 1, .str s => .ok (.str s)
  | calls + 1, .list items => (jsonItems P redactedKeys calls items).map .arr
  | calls + 1, .tuple items => (jsonItems P redactedKeys calls items).map .arr
  | calls + 1, .set items => (jsonItems P redactedKeys calls items).map .arr
  | calls + 1, .mapping entries =>
    (jsonEntries P redactedKeys calls entries).map fun pairs => .obj (Dict.ofPairs pairs).items
  | calls + 1, .model _ dumped => jsonValue P redactedKeys (calls + 1) dumped
  | calls + 1, .dataclass fields => jsonValue P redactedKeys (calls + 1) fields
  | _ + 1, .object text _ => .ok (.str text)
  | _ + 1, .broken e => .error e

def jsonItems (P : Python) (redactedKeys : List String) (calls : ℕ) :
    List PyValue → Except PyError (List Json)
  | [] => .ok []
  | v :: vs => do
    let item ← jsonValue P redactedKeys calls v
    let rest ← jsonItems P redactedKeys calls vs
    return item :: rest

def jsonEntries (P : Python) (redactedKeys : List String) (calls : ℕ) :
    Entries → Except PyError (List (String × Json))
  | [] => .ok []
  | (k, v) :: es => do
    let key ← pyStr P k
    -- a redacted value is not converted, however deep it is
    let item ← (if isRedacted P redactedKeys key then .ok (.str "[REDACTED]")
      else jsonValue P redactedKeys calls v)
    let rest ← jsonEntries P redactedKeys calls es
    return (key, item) :: rest

end

/-- `_json_value` with the keys of the adapter. -/
def Adapter.json (v : PyValue) : Except PyError Json :=
  jsonValue a.python a.capture.redactedKeys a.python.recursionLimit v

/-- `_json_size`, which redacts nothing. -/
def jsonSize (P : Python) (v : PyValue) : Except PyError ℕ := do
  let serialized ← jsonValue P [] P.recursionLimit v
  match dumpsSize serialized with
  | some size => .ok size
  | none => .error digitsError

/-- `_stream_part`. -/
def streamPart (value : PyValue) : Except PyError Entries :=
  match value with
  | .mapping part =>
    if (getKey part "type").isNone || (getKey part "data").isNone then
      .error (valueError "LangGraph v2 stream part requires type and data")
    else .ok part
  | _ => .error (valueError "LangGraph v2 stream parts must be mappings")

/-- The role under its alias. -/
def aliasRole (role : String) : String :=
  if role = "ai" then "assistant" else if role = "human" then "user" else role

/-- `sorted(str(key) for key in entries)`. -/
def sortedKeys (entries : Entries) : Except PyError Json := do
  let keys ← entries.mapM fun e => pyStr a.python e.1
  return .arr ((keys.insertionSort (· ≤ ·)).map .str)

def namespaceJson (ns : List String) : Json := .arr (ns.map .str)

/-- A truthy field. -/
def getTrue (fields : List (String × Json)) (key : String) : Option Json :=
  (Json.getField fields key).filter Json.truthy

/-- `value is not None`. -/
def notNull : Json → Bool
  | .null => false
  | _ => true

/-- The message and its metadata: a pair, or the value alone. -/
def messageParts (value : PyValue) : PyValue × PyValue :=
  match value with
  | .list [message, metadata] => (message, metadata)
  | .tuple [message, metadata] => (message, metadata)
  | _ => (value, .mapping [])

/-- What `_message_data` takes from a message and its metadata: role and content, then the node and
    the fields that are copied when they are truthy. -/
structure MessageFields where
  role : String
  content : Json
  copied : List (String × Json)

/-- The data of a message step. -/
def MessageFields.payload (fields : MessageFields) (ns : List String) : List (String × Json) :=
  [("role", .str fields.role), ("content", fields.content), ("namespace", namespaceJson ns)] ++
    fields.copied

/-- `_message_data` of the serialized message and metadata. -/
def serializedFields (serialized metadata : Json) : Except PyError MessageFields := do
  let message := match serialized with
    | .obj fields => fields
    | other => [("content", other)]
  let role := ((getTrue message "role").orElse fun _ => getTrue message "type").getD
    (.str "assistant")
  let roleText ← pyStr a.python (ofJson role)
  let node := match metadata with
    | .obj fields => (Json.getField fields "langgraph_node").filter notNull
    | _ => none
  return { role := aliasRole roleText
           content := (Json.getField message "content").getD (.str "")
           copied := (node.map fun n => ("node", n)).toList ++
             ["id", "tool_calls", "invalid_tool_calls"].filterMap fun key =>
               (getTrue message key).map fun v => (key, v) }

/-- `_message_data`, the namespace apart. -/
def messageFields (value : PyValue) : Except PyError MessageFields := do
  let serialized ← a.json (messageParts value).1
  let metadata ← a.json (messageParts value).2
  serializedFields a serialized metadata

/-- `_message_data`. -/
def messageData (value : PyValue) (ns : List String) : Except PyError (List (String × Json)) :=
  (messageFields a value).map fun fields => fields.payload ns

/-- A field of a task that is copied when it is there. -/
def copyField (data : Entries) (key : String) : Except PyError (List (String × Json)) :=
  match getKey data key with
  | some v => (a.json v).map fun j => [(key, j)]
  | none => .ok []

/-- `data["result"]`, by its keys, when payloads are not captured. -/
def resultKeys (data : Entries) : Except PyError (List (String × Json)) :=
  match getKey data "result" with
  | some (.mapping result) => (sortedKeys a result).map fun keys => [("result_keys", keys)]
  | _ => .ok []

/-- The payload of a task: its fields when payloads are captured, else the keys of its result. -/
def taskPayload (data : Entries) : Except PyError (List (String × Json)) :=
  if a.capture.capturePayloads then
    (["input", "result", "error", "interrupts"].mapM (copyField a data)).map List.flatten
  else resultKeys a data

/-- The phase of a task, by its error and its result. -/
def taskPhase (data : Entries) : String :=
  if (getKey data "error").any truthy then "error"
  else if (getKey data "result").isSome || (getKey data "error").isSome then "finished"
  else "started"

/-- `str(data.get("name", "unknown"))`. -/
def taskName (data : Entries) : Except PyError String :=
  pyStr a.python ((getKey data "name").getD (.str "unknown"))

/-- The fields of a task that are copied. -/
def taskFields (data : Entries) : Except PyError (List (String × Json)) := do
  let triggers ← copyField a data "triggers"
  let payload ← taskPayload a data
  return triggers ++ payload

def taskRecord (name phase : String) (ns : List String) (fields : List (String × Json)) :
    TrajectoryStep :=
  ⟨.graphNode, [("name", .str name), ("phase", .str phase), ("namespace", namespaceJson ns)] ++
    fields⟩

/-- `_trajectory_step` of a task. -/
def taskStep (ns : List String) (data : Entries) : Except PyError TrajectoryStep := do
  let name ← taskName a data
  let fields ← taskFields a data
  return taskRecord name (taskPhase data) ns fields

/-- The keys of an event whose data is a mapping. -/
def eventKeys (data : PyValue) : Except PyError (List (String × Json)) :=
  match data with
  | .mapping entries => (sortedKeys a entries).map fun keys => [("keys", keys)]
  | _ => .ok []

/-- The payload of an event when payloads are captured. -/
def eventPayload (data : PyValue) : Except PyError (List (String × Json)) :=
  if a.capture.capturePayloads then (a.json data).map fun j => [("payload", j)] else .ok []

/-- What an event shows of its data. -/
def eventFields (data : PyValue) : Except PyError (List (String × Json)) := do
  let keys ← eventKeys a data
  let payload ← eventPayload a data
  return keys ++ payload

def eventRecord (partType : String) (ns : List String) (fields : List (String × Json)) :
    TrajectoryStep :=
  ⟨.graphEvent, [("event", .str partType), ("namespace", namespaceJson ns)] ++ fields⟩

/-- `_trajectory_step` of an update or a custom event. -/
def eventStep (partType : String) (ns : List String) (data : PyValue) :
    Except PyError TrajectoryStep := do
  let fields ← eventFields a data
  return eventRecord partType ns fields

/-- `_trajectory_step`. -/
def trajectoryStep (partType : String) (ns : List String) (data : PyValue) :
    Except PyError (Option TrajectoryStep) :=
  if partType = "tasks" then
    match data with
    | .mapping entries => (taskStep a ns entries).map some
    | _ => .ok none
  else if partType = "messages" then
    (messageData a data ns).map fun payload => some ⟨.message, payload⟩
  else if partType = "updates" ∨ partType = "custom" then (eventStep a partType ns data).map some
  else .ok none

/-! ## The final state -/

/-- `_text`. -/
def textOf (value : PyValue) (field : String) : Except PyError String :=
  match value with
  | .str s => .ok s
  | _ => .error (valueError ("LangGraph " ++ field ++ " output must be text"))

/-- A value that is a `Message`. -/
def asMessage (value : PyValue) : Option Message :=
  match value with
  | .model "Message" (.mapping fields) =>
    match getKey fields "role", getKey fields "content" with
    | some (.str role), some (.str content) =>
      if h : role ∈ messageRoles then some ⟨role, content, h⟩ else none
    | _, _ => none
  | _ => none

/-- `Message(role=…, content=…)`. -/
def makeMessage (role content : String) : Except PyError Message :=
  if h : role ∈ messageRoles then .ok ⟨role, content, h⟩
  else .error ⟨"ValidationError", a.roleError role, true⟩

/-- `payload.get("role") or payload.get("type") or "assistant"`. -/
def roleOf (payload : Entries) : PyValue :=
  (((getKey payload "role").filter truthy).orElse fun _ =>
    (getKey payload "type").filter truthy).getD (.str "assistant")

theorem assistant_mem : "assistant" ∈ messageRoles := by decide

/-- `_message`. -/
def messageOf (value : PyValue) : Except PyError (Option Message) :=
  match value with
  | .null => .ok none
  | .str s => .ok (some ⟨"assistant", s, assistant_mem⟩)
  | .mapping payload => do
    let role ← pyStr a.python (roleOf payload)
    let content ← textOf ((getKey payload "content").getD (.str "")) "content"
    let message ← makeMessage a (aliasRole role) content
    return some message
  | other =>
    match asMessage other with
    | some message => .ok (some message)
    | none =>
      .error (valueError "LangGraph final_response output must be text or a message mapping")

/-- `ExecutionStatus(text)`. -/
def statusOf (text : String) : Option ExecutionStatus :=
  if text = "passed" then some .passed
  else if text = "failed" then some .failed
  else if text = "error" then some .error
  else none

/-- The exception for a status that is none, by its `repr`. -/
def invalidStatus (value : PyValue) : Except PyError ExecutionStatus := do
  let shown ← a.python.repr value
  .error (valueError ("invalid LangGraph output status: " ++ shown))

/-- The status of the final state; a `ValueError` of `str` counts as an invalid status. -/
def readStatus (state : Entries) : Except PyError ExecutionStatus :=
  let value := (getKey state a.mapping.status).getD (.str "passed")
  match pyStr a.python value with
  | .error e => if e.isValueError then invalidStatus a value else .error e
  | .ok text =>
    match statusOf text with
    | some status => .ok status
    | none => invalidStatus a value

/-- `isinstance(value, list)` of texts. -/
def textList (value : PyValue) : Option (List String) :=
  match value with
  | .list items => items.mapM fun v => match v with
    | .str s => some s
    | _ => none
  | _ => none

/-- The modified files of the final state. -/
def readFiles (state : Entries) : Except PyError (List String) :=
  match textList ((getKey state a.mapping.modifiedFiles).getD (.list [])) with
  | some files => .ok files
  | none => .error (valueError "LangGraph modified_files output must be a list of strings")

/-- The name and the arguments of a tool call. -/
def callFields (item : PyValue) : Except PyError (String × Json) :=
  match item with
  | .mapping fields =>
    match getKey fields "name" with
    | some (.str name) =>
      match (getKey fields "arguments").getD (.mapping []) with
      | .mapping arguments => (a.json (.mapping arguments)).map fun j => (name, j)
      | _ => .error (valueError "LangGraph tool call arguments must be a mapping")
    | _ => .error (valueError "LangGraph tool call outputs require a name")
  | _ => .error (valueError "LangGraph tool call outputs require a name")

def callRecord (call : String × Json) : TrajectoryStep :=
  ⟨.toolCall, [("name", .str call.1), ("arguments", call.2)]⟩

/-- The step of a tool call. -/
def toolCallStep (item : PyValue) : Except PyError TrajectoryStep :=
  (callFields a item).map callRecord

/-- The name of a tool result, whether it is ok, and `str(output)`, which redacts nothing. -/
def resultFields (item : PyValue) : Except PyError (String × Bool × String) :=
  match item with
  | .mapping fields =>
    match getKey fields "name" with
    | some (.str name) =>
      (pyStr a.python ((getKey fields "output").getD (.str ""))).map fun output =>
        (name, (getKey fields "ok").any truthy, output)
    | _ => .error (valueError "LangGraph tool result outputs require a name")
  | _ => .error (valueError "LangGraph tool result outputs require a name")

def resultRecord (result : String × Bool × String) : TrajectoryStep :=
  ⟨.toolResult, [("name", .str result.1), ("ok", .bool result.2.1), ("output", .str result.2.2)]⟩

/-- The step of a tool result. -/
def toolResultStep (item : PyValue) : Except PyError TrajectoryStep :=
  (resultFields a item).map resultRecord

/-- The steps a loop appends, up to the item that raises. -/
def appendSteps (f : PyValue → Except PyError TrajectoryStep) :
    List PyValue → List TrajectoryStep × Option PyError
  | [] => ([], none)
  | item :: items =>
    match f item with
    | .error e => ([], some e)
    | .ok step =>
      let (steps, raised) := appendSteps f items
      (step :: steps, raised)

/-- The tool calls and the tool results of the final state, if both are lists. -/
def toolLists (state : Entries) : Option (List PyValue × List PyValue) :=
  match (getKey state a.mapping.toolCalls).getD (.list []),
      (getKey state a.mapping.toolResults).getD (.list []) with
  | .list toolCalls, .list toolResults => some (toolCalls, toolResults)
  | _, _ => none

/-- The exception for tool lists that are none. -/
def toolListsError : PyError :=
  valueError "LangGraph tool_calls and tool_results outputs must be lists"

/-- `_append_tool_steps`. -/
def appendToolSteps (state : Entries) : List TrajectoryStep × Option PyError :=
  match toolLists a state with
  | some (toolCalls, toolResults) =>
    match appendSteps (toolCallStep a) toolCalls with
    | (calls, some e) => (calls, some e)
    | (calls, none) =>
      let (results, raised) := appendSteps (toolResultStep a) toolResults
      (calls ++ results, raised)
  | none => ([], some toolListsError)

/-- The texts and the message of the output. -/
structure OutputTexts where
  finalResponse : Option Message
  patch : String
  publicTestOutput : String
  hiddenTestOutput : String

/-- The arguments of `AgentOutput`, in their order. -/
def readOutputs (state : Entries) : Except PyError OutputTexts := do
  let finalResponse ← messageOf a ((getKey state a.mapping.finalResponse).getD .null)
  let patch ← textOf ((getKey state a.mapping.patch).getD (.str "")) a.mapping.patch
  let publicTestOutput ← textOf ((getKey state a.mapping.publicTestOutput).getD
    (.str "not provided")) a.mapping.publicTestOutput
  let hiddenTestOutput ← textOf ((getKey state a.mapping.hiddenTestOutput).getD
    (.str "not provided")) a.mapping.hiddenTestOutput
  return ⟨finalResponse, patch, publicTestOutput, hiddenTestOutput⟩

/-- The final step. -/
def finalStep (status : ExecutionStatus) : TrajectoryStep :=
  ⟨.final, [("status", .str status.value)]⟩

/-- `_output_from_state`: the final step is appended before the outputs are read. -/
def outputFromState (state : Entries) (steps : List TrajectoryStep) :
    List TrajectoryStep × Except PyError (ExecutionStatus × List String × OutputTexts) :=
  match readStatus a state with
  | .error e => (steps, .error e)
  | .ok status =>
    match readFiles a state with
    | .error e => (steps, .error e)
    | .ok files =>
      match appendToolSteps a state with
      | (toolSteps, some e) => (steps ++ toolSteps, .error e)
      | (toolSteps, none) => (steps ++ toolSteps ++ [finalStep status],
          (readOutputs a state).map fun texts => (status, files, texts))

/-! ## The execution -/

/-- The variables of `execute`. -/
structure StreamState where
  eventCount : ℕ
  streamBytes : ℕ
  subgraphs : Finset (List String)
  finalState : Option Entries
  interrupted : Bool
  steps : List TrajectoryStep

def StreamState.initial : StreamState := ⟨0, 0, ∅, none, false, []⟩

/-- `tuple(str(item) for item in part.get("ns", ()))`. -/
def namespaceOf (part : Entries) : Except PyError (List String) := do
  let items ← iterate a.python ((getKey part "ns").getD (.tuple []))
  items.mapM (pyStr a.python)

/-- One turn of the stream loop from the size check on. -/
def consumePart (s : StreamState) (part : Entries) : StreamState × Option PyError :=
  match namespaceOf a part with
  | .error e => (s, some e)
  | .ok ns =>
    let s := if ns = [] then s else { s with subgraphs := insert ns s.subgraphs }
    match pyStr a.python ((getKey part "type").getD (.str "unknown")) with
    | .error e => (s, some e)
    | .ok partType =>
      let data := (getKey part "data").getD .null
      let s := { s with
        interrupted := s.interrupted || (getKey part "interrupts").any truthy
        finalState := match data with
          | .mapping entries =>
            if partType = "values" ∧ ns = [] then some entries else s.finalState
          | _ => s.finalState }
      match trajectoryStep a partType ns data with
      | .error e => (s, some e)
      | .ok none => (s, none)
      | .ok (some step) => ({ s with steps := s.steps ++ [step] }, none)

/-- One turn of the stream loop. -/
def consume (s : StreamState) (raw : PyValue) : StreamState × Option PyError :=
  let s := { s with eventCount := s.eventCount + 1 }
  if a.capture.maxEvents < s.eventCount then
    (s, some (valueError (s!"LangGraph emitted more than {a.capture.maxEvents} events")))
  else
    match streamPart raw with
    | .error e => (s, some e)
    | .ok part =>
      match jsonSize a.python (.mapping part) with
      | .error e => (s, some e)
      | .ok eventBytes =>
        if a.capture.maxEventBytes < eventBytes then
          (s, some (valueError
            (s!"LangGraph stream event exceeded {a.capture.maxEventBytes} bytes")))
        else
          let s := { s with streamBytes := s.streamBytes + eventBytes }
          if a.capture.maxTotalBytes < s.streamBytes then
            (s, some (valueError
              (s!"LangGraph stream exceeded {a.capture.maxTotalBytes} total bytes")))
          else consumePart a s part

/-- The stream loop. -/
def readStream (s : StreamState) : List PyValue → StreamState × Option PyError
  | [] => (s, none)
  | raw :: parts =>
    match consume a s raw with
    | (s, some e) => (s, some e)
    | (s, none) => readStream s parts

/-- The stream, with what the graph raises before and after its parts. -/
def stream (e : Execution) : StreamState × Option PyError :=
  match e.before with
  | some raised => (.initial, some raised)
  | none =>
    match readStream a .initial e.parts with
    | (s, some raised) => (s, some raised)
    | (s, none) => (s, e.after)

/-- The exception for a stream without a state. -/
def noStateError : PyError := valueError "LangGraph did not emit a root values state"

/-- The exception for a stream with interrupts. -/
def interruptedError : PyError :=
  ⟨"RuntimeError", "LangGraph execution interrupted before completion", false⟩

/-- The `try` block of `execute`. -/
def attempt (s : StreamState) (raised : Option PyError) :
    List TrajectoryStep × Except PyError (ExecutionStatus × List String × OutputTexts) :=
  match raised with
  | some e => (s.steps, .error e)
  | none =>
    match s.finalState with
    | none => (s.steps, .error noStateError)
    | some state =>
      if s.interrupted then (s.steps, .error interruptedError)
      else outputFromState a state s.steps

/-- The step of an exception. -/
def errorStep (e : PyError) : TrajectoryStep :=
  ⟨.error, [("error_type", .str e.errorType), ("message", .str e.message)]⟩

/-- What `execute` records about the stream. -/
def runtimeMetadata (s : StreamState) : List (String × Json) :=
  [("provider", .str "langgraph"), ("graph", .str a.graphName), ("stream_version", .str "v2"),
    ("events", .int s.eventCount), ("stream_bytes", .int s.streamBytes),
    ("subgraphs", .int s.subgraphs.card), ("payload_capture", .bool a.capture.capturePayloads)]

/-- `execute`. -/
def execute (e : Execution) (agentVersion : String) : AgentOutput :=
  let (s, raised) := stream a e
  let metadata := ("agent_version", .str agentVersion) :: runtimeMetadata a s
  match attempt a s raised with
  | (steps, .ok (status, files, texts)) =>
    { finalResponse := texts.finalResponse, trajectory := steps, patch := texts.patch,
      modifiedFiles := files, publicTestOutput := texts.publicTestOutput,
      hiddenTestOutput := texts.hiddenTestOutput, status, error := none,
      runtimeMetadata := metadata }
  | (steps, .error error) =>
    { finalResponse := some ⟨"assistant", "LangGraph execution failed.", assistant_mem⟩,
      trajectory := steps ++ [errorStep error], patch := "", modifiedFiles := [],
      publicTestOutput := error.message, hiddenTestOutput := "not run", status := .error,
      error := some error, runtimeMetadata := metadata }

end AEControl.LangGraph
