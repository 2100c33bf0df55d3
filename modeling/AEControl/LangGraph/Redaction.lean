/-
  What redaction hides from the reads of the adapter.

  `jsonValue` is the only conversion that redacts.  Two values that differ under redacted keys only
  are `Similar` for the keys the code redacts (`Adapter.hidden`).

  1. **The conversion** — similar values have the same JSON (`jsonValue_of_similar`), by induction on
     the value: a redacted value is replaced before it is looked at.

  2. **The reads** — what the adapter reads through the conversion, or as a truth, a kind or the keys
     of a mapping, is the same for similar values: `taskFields_eq`, `messageFields_eq`,
     `eventFields_eq`, `callFields_eq`, `readFiles_eq`.  The other reads are listed: `ClearTask`,
     `ClearPart` and `ClearState` say that what they read does not differ.

  3. **The stream** — it leaves similar final states, and is interrupted alike (`stream_alike`).
-/
import AEControl.LangGraph.Trace

namespace AEControl.LangGraph

open PyValue

/-! ## Redacted keys -/

/-- The code's comparison of a key: `str(key).lower() in redacted_keys`. -/
def redacts (P : Python) (redactedKeys : List String) (key : PyValue) : Bool :=
  match pyStr P key with
  | .ok text => isRedacted P redactedKeys text
  | .error _ => false

/-! ## Values -/

section
variable {P : Python} {keys : List String}

mutual

/-- What is concealed does not show in the JSON, and raises as it did. -/
theorem jsonValue_conceal (v : PyValue) (calls : ℕ) :
    jsonValue P keys calls (conceal (redacts P keys) v) = jsonValue P keys calls v := by
  cases calls with
  | zero => simp only [jsonValue]
  | succ calls =>
    cases v with
    | list items | tuple items | set items =>
      simp only [conceal, jsonValue]
      rw [jsonItems_conceal items]
    | mapping entries =>
      simp only [conceal, jsonValue]
      rw [jsonEntries_conceal entries]
    | model name dumped =>
      simp only [conceal, jsonValue]
      exact jsonValue_conceal dumped (calls + 1)
    | dataclass fields =>
      simp only [conceal, jsonValue]
      exact jsonValue_conceal fields (calls + 1)
    | null | bool _ | int _ | float _ | str _ | object _ _ | broken _ => simp only [conceal]

/-- The JSON of a list does not change when its items are concealed. -/
theorem jsonItems_conceal (items : List PyValue) (calls : ℕ) :
    jsonItems P keys calls (concealItems (redacts P keys) items) =
      jsonItems P keys calls items := by
  cases items with
  | nil => rfl
  | cons v vs =>
    simp only [concealItems, jsonItems]
    rw [jsonValue_conceal v, jsonItems_conceal vs]

/-- The JSON of a mapping does not change when its entries are concealed: a concealed entry is
    redacted anyway. -/
theorem jsonEntries_conceal (entries : Entries) (calls : ℕ) :
    jsonEntries P keys calls (concealEntries (redacts P keys) entries) =
      jsonEntries P keys calls entries := by
  match entries with
  | [] => rfl
  | (k, v) :: es =>
    simp only [concealEntries, jsonEntries]
    rw [jsonEntries_conceal es]
    cases hkey : pyStr P k with
    | error e => rfl
    | ok text =>
      have hredacts : redacts P keys k = isRedacted P keys text := by
        unfold redacts
        rw [hkey]
      rw [hredacts]
      cases hredacted : isRedacted P keys text with
      | true => simp only [bind, Except.bind, hredacted, if_true]
      | false => simp only [Bool.false_eq_true, if_false, jsonValue_conceal v]

end

/-- **Similar values have one JSON**, with the key set the redaction was made for. -/
theorem jsonValue_of_similar {v w : PyValue} (h : Similar (redacts P keys) v w) (calls : ℕ) :
    jsonValue P keys calls v = jsonValue P keys calls w := by
  rw [← jsonValue_conceal v, h, jsonValue_conceal w]

end

/-! ## Fields -/

section
variable {hidden : PyValue → Bool} {α : Type}

/-- Under a key the two mappings have values that differ in hidden places only. -/
def Agree (hidden : PyValue → Bool) (es es' : Entries) (key : String) : Prop :=
  (getKey es key).map (conceal hidden) = (getKey es' key).map (conceal hidden)

/-- What concealing leaves as it is, similar values have in common. -/
theorem eq_of_similar {f : PyValue → α} (hf : ∀ v, f (conceal hidden v) = f v) {v w : PyValue}
    (h : Similar hidden v w) : f v = f w := by
  rw [← hf v, h, hf w]

/-- The key is in neither mapping, or in both with similar values. -/
theorem Agree.cases {es es' : Entries} {key : String} (h : Agree hidden es es' key) :
    (getKey es key = none ∧ getKey es' key = none) ∨
      ∃ v w, getKey es key = some v ∧ getKey es' key = some w ∧ Similar hidden v w := by
  unfold Agree at h
  cases hv : getKey es key with
  | none =>
    rw [hv] at h
    exact .inl ⟨rfl, Option.map_eq_none_iff.mp h.symm⟩
  | some v =>
    rw [hv, Option.map_some] at h
    obtain ⟨w, hw, hconceal⟩ := Option.map_eq_some_iff.mp h.symm
    exact .inr ⟨v, w, rfl, hw, hconceal.symm⟩

/-- A field with its default. -/
theorem Agree.similar_getD {es es' : Entries} {key : String} (h : Agree hidden es es' key)
    (default : PyValue) : Similar hidden ((getKey es key).getD default)
      ((getKey es' key).getD default) := by
  have hread := congrArg (fun v => v.getD (conceal hidden default)) h
  simp only [Option.getD_map] at hread
  exact hread

/-- One of two fields that agree is truthy if the other one is. -/
theorem Agree.any_truthy {es es' : Entries} {key : String} (h : Agree hidden es es' key) :
    (getKey es key).any truthy = (getKey es' key).any truthy := by
  rcases h.cases with ⟨hv, hw⟩ | ⟨v, w, hv, hw, hsimilar⟩
  · rw [hv, hw]
  · rw [hv, hw]
    show truthy v = truthy w
    exact eq_of_similar truthy_conceal hsimilar

/-- One of two fields that agree is there if the other one is. -/
theorem Agree.isSome_eq {es es' : Entries} {key : String} (h : Agree hidden es es' key) :
    (getKey es key).isSome = (getKey es' key).isSome := by
  have hread := congrArg Option.isSome h
  simpa only [Option.isSome_map] using hread

/-- A text is no mapping: it is not concealed. -/
theorem textOf_conceal (field : String) (v : PyValue) :
    textOf (conceal hidden v) field = textOf v field := by
  cases v <;> simp only [conceal, textOf]

/-- A list of texts has no mapping in it: it is not concealed. -/
theorem textList_conceal (v : PyValue) : textList (conceal hidden v) = textList v := by
  cases v with
  | list items =>
    simp only [conceal, textList, concealItems_eq_map, List.mapM_map]
    congr 1
    funext v
    cases v <;> simp only [Function.comp, conceal]
  | _ => simp only [conceal, textList]

variable (a : Adapter)

/-- The keys of a mapping are not concealed. -/
theorem sortedKeys_conceal (entries : Entries) :
    sortedKeys a (concealEntries hidden entries) = sortedKeys a entries := by
  unfold sortedKeys
  rw [concealEntries_eq_map, List.mapM_map]
  rfl

/-- An event whose mapping is concealed records the same keys. -/
theorem eventKeys_conceal (v : PyValue) : eventKeys a (conceal hidden v) = eventKeys a v := by
  cases v with
  | mapping entries => simp only [conceal, eventKeys, sortedKeys_conceal]
  | _ => simp only [conceal, eventKeys]

/-- Whether a value is a pair does not depend on hidden places. -/
theorem messageParts_conceal (v : PyValue) : messageParts (conceal hidden v) =
    (conceal hidden (messageParts v).1, conceal hidden (messageParts v).2) := by
  cases v with
  | list items | tuple items =>
    match items with
    | [] => rfl
    | [message] => rfl
    | [message, metadata] => rfl
    | _ :: _ :: _ :: _ => rfl
  | _ => rfl

end

/-! ## What is read in the clear -/

variable (a : Adapter)

/-- The keys the adapter redacts. -/
def Adapter.hidden : PyValue → Bool := redacts a.python a.capture.redactedKeys

/-- A task: its name, and the fields that are copied or whose truth or keys are read. -/
structure ClearTask (d d' : Entries) : Prop where
  name : taskName a d = taskName a d'
  fields : ∀ key ∈ ["error", "triggers", "input", "result", "interrupts"], Agree a.hidden d d' key

/-- A part: its type and namespace, the data of a task, and whether its size is computed; the size
    itself is compared with the limits only. -/
structure ClearPart (part part' : Entries) : Prop where
  partType : partTypeOf a part = partTypeOf a part'
  namespaces : namespaceOf a part = namespaceOf a part'
  size : (jsonSize a.python (.mapping part)).map (fun _ => ()) =
    (jsonSize a.python (.mapping part')).map fun _ => ()
  interrupts : Agree a.hidden part part' "interrupts"
  data : Agree a.hidden part part' "data"
  task : ∀ d d', partTypeOf a part = .ok "tasks" → dataOf part = .mapping d →
    dataOf part' = .mapping d' → ClearTask a d d'

/-- A tool call. -/
def ClearCall (item item' : PyValue) : Prop :=
  ∀ fields fields', item = .mapping fields → item' = .mapping fields' →
    Agree a.hidden fields fields' "name" ∧ Agree a.hidden fields fields' "arguments"

/-- A tool result: its output is read by `str`. -/
def ClearResult (item item' : PyValue) : Prop :=
  ∀ fields fields', item = .mapping fields → item' = .mapping fields' →
    Agree a.hidden fields fields' "name" ∧ Agree a.hidden fields fields' "ok" ∧
      pyStr a.python ((getKey fields "output").getD (.str "")) =
        pyStr a.python ((getKey fields' "output").getD (.str ""))

/-- The final response: the role of a mapping, and whether it is a `Message`. -/
structure ClearResponse (value value' : PyValue) : Prop where
  message : (asMessage value).isSome = (asMessage value').isSome
  role : ∀ payload payload', value = .mapping payload → value' = .mapping payload' →
    pyStr a.python (roleOf payload) = pyStr a.python (roleOf payload') ∧
      Agree a.hidden payload payload' "content"

/-- The final state: its status, its tool results, and the fields whose kind is checked. -/
structure ClearState (state state' : Entries) : Prop where
  status : readStatus a state = readStatus a state'
  fields : ∀ key ∈ [a.mapping.modifiedFiles, a.mapping.toolCalls, a.mapping.toolResults,
    a.mapping.finalResponse, a.mapping.patch, a.mapping.publicTestOutput,
    a.mapping.hiddenTestOutput], Agree a.hidden state state' key
  calls : ∀ calls calls', getKey state a.mapping.toolCalls = some (.list calls) →
    getKey state' a.mapping.toolCalls = some (.list calls') →
    List.Forall₂ (ClearCall a) calls calls'
  results : ∀ results results', getKey state a.mapping.toolResults = some (.list results) →
    getKey state' a.mapping.toolResults = some (.list results') →
    List.Forall₂ (ClearResult a) results results'
  response : ∀ value value', getKey state a.mapping.finalResponse = some value →
    getKey state' a.mapping.finalResponse = some value' → ClearResponse a value value'

/-! ## The reads -/

section
variable {a}

/-- The JSON the adapter records of similar values is one. -/
theorem json_of_similar {v w : PyValue} (h : Similar a.hidden v w) : a.json v = a.json w :=
  jsonValue_of_similar h _

/-- A field that agrees is recorded alike. -/
theorem copyField_eq {d d' : Entries} {key : String} (h : Agree a.hidden d d' key) :
    copyField a d key = copyField a d' key := by
  unfold copyField
  rcases h.cases with ⟨hv, hw⟩ | ⟨v, w, hv, hw, hsimilar⟩
  · rw [hv, hw]
  · rw [hv, hw]
    dsimp only
    rw [json_of_similar hsimilar]

/-- The keys of a result that agrees are recorded alike. -/
theorem resultKeys_eq {d d' : Entries} (h : Agree a.hidden d d' "result") :
    resultKeys a d = resultKeys a d' := by
  have hconceal (v : PyValue) : resultKeys a [(.str "result", conceal a.hidden v)] =
      resultKeys a [(.str "result", v)] := by
    have hread (w : PyValue) : getKey [(.str "result", w)] "result" = some w := rfl
    unfold resultKeys
    rw [hread, hread]
    cases v with
    | mapping entries => simp only [conceal, sortedKeys_conceal]
    | _ => simp only [conceal]
  rcases h.cases with ⟨hv, hw⟩ | ⟨v, w, hv, hw, hsimilar⟩
  · unfold resultKeys
    rw [hv, hw]
  · have hkeys := eq_of_similar (f := fun v => resultKeys a [(.str "result", v)]) hconceal hsimilar
    unfold resultKeys at hkeys ⊢
    rw [hv, hw]
    exact hkeys

/-- What is copied of a task. -/
theorem taskFields_eq {d d' : Entries} (h : ClearTask a d d') :
    taskFields a d = taskFields a d' := by
  have hfield := fun key hkey => copyField_eq (h.fields key hkey)
  have hpayload : taskPayload a d = taskPayload a d' := by
    unfold taskPayload
    rw [resultKeys_eq (h.fields "result" (by decide))]
    simp only [List.mapM_cons, List.mapM_nil, hfield "input" (by decide),
      hfield "result" (by decide), hfield "error" (by decide), hfield "interrupts" (by decide)]
  unfold taskFields
  rw [hfield "triggers" (by decide), hpayload]

/-- The phase of a task is read off which fields are there and truthy, so clear tasks have one
    phase. -/
theorem taskPhase_eq {d d' : Entries} (h : ClearTask a d d') : taskPhase d = taskPhase d' := by
  have herror := h.fields "error" (by decide)
  unfold taskPhase
  rw [herror.any_truthy, herror.isSome_eq, (h.fields "result" (by decide)).isSome_eq]

/-- Similar events are recorded alike: what is recorded of them is redacted, or keys. -/
theorem eventFields_eq {v w : PyValue} (h : Similar a.hidden v w) :
    eventFields a v = eventFields a w := by
  unfold eventFields eventPayload
  rw [eq_of_similar (eventKeys_conceal a) h, json_of_similar h]

/-- Similar messages are recorded alike: their texts are no mappings, the rest is redacted. -/
theorem messageFields_eq {v w : PyValue} (h : Similar a.hidden v w) :
    messageFields a v = messageFields a w := by
  have hparts : (conceal a.hidden (messageParts v).1, conceal a.hidden (messageParts v).2) =
      (conceal a.hidden (messageParts w).1, conceal a.hidden (messageParts w).2) := by
    rw [← messageParts_conceal, ← messageParts_conceal, h]
  unfold messageFields
  rw [json_of_similar (congrArg Prod.fst hparts), json_of_similar (congrArg Prod.snd hparts)]

/-- A mapping is similar to a mapping. -/
theorem similar_mapping {hidden : PyValue → Bool} {es : Entries} {w : PyValue}
    (h : Similar hidden (.mapping es) w) :
    ∃ es', w = .mapping es' ∧ concealEntries hidden es = concealEntries hidden es' := by
  unfold PyValue.Similar at h
  cases w with
  | mapping es' =>
    simp only [conceal, mapping.injEq] at h
    exact ⟨es', rfl, h⟩
  | _ => simp only [conceal] at h; cases h

/-- A part is a mapping. -/
theorem streamPart_ok {raw : PyValue} {part : Entries} (h : streamPart raw = .ok part) :
    raw = .mapping part := by
  unfold streamPart at h
  split at h
  · split at h
    · cases h
    · cases h
      rfl
  · cases h

/-- What is no part is none whatever is hidden in it. -/
theorem streamPart_error {hidden : PyValue → Bool} {raw raw' : PyValue}
    (h : Similar hidden raw raw') {e : PyError} (he : streamPart raw = .error e) :
    streamPart raw' = .error e := by
  cases raw with
  | mapping es =>
    obtain ⟨es', rfl, hes⟩ := similar_mapping h
    have hkey (key : String) : (getKey es' key).isNone = (getKey es key).isNone := by
      rw [← Option.not_isSome, ← Option.not_isSome, isSome_getKey hes]
    simp only [streamPart] at he ⊢
    rw [hkey, hkey]
    split at he
    · rename_i hmissing
      rw [if_pos hmissing]
      exact he
    · cases he
  | _ =>
    cases raw' with
    | mapping es' =>
      obtain ⟨es, hes, -⟩ := similar_mapping h.symm
      cases hes
    | _ => exact he

/-- Lists that are concealed alike are so item by item. -/
theorem forall₂_similar_and {hidden : PyValue → Bool} {R : PyValue → PyValue → Prop}
    {items items' : List PyValue} (h : concealItems hidden items = concealItems hidden items')
    (hR : List.Forall₂ R items items') :
    List.Forall₂ (fun v w => Similar hidden v w ∧ R v w) items items' := by
  induction hR with
  | nil => exact .nil
  | cons hr _ ih =>
    simp only [concealItems, List.cons.injEq] at h
    exact .cons ⟨h.1, hr⟩ (ih h.2)

/-- A field that should hold a list: two lists of related items, or no list in either. -/
theorem listField {hidden : PyValue → Bool} {state state' : Entries} {key : String}
    (h : Agree hidden state state' key) {R : PyValue → PyValue → Prop}
    (hitems : ∀ l l', getKey state key = some (.list l) → getKey state' key = some (.list l') →
      List.Forall₂ R l l') :
    (∃ l l', (getKey state key).getD (.list []) = .list l ∧
      (getKey state' key).getD (.list []) = .list l' ∧
      List.Forall₂ (fun v w => Similar hidden v w ∧ R v w) l l') ∨
    ((∀ l, (getKey state key).getD (.list []) ≠ .list l) ∧
      ∀ l, (getKey state' key).getD (.list []) ≠ .list l) := by
  rcases h.cases with ⟨hv, hw⟩ | ⟨v, w, hv, hw, hsimilar⟩
  · rw [hv, hw]
    exact .inl ⟨[], [], rfl, rfl, .nil⟩
  · rw [hv, hw] at hitems ⊢
    unfold PyValue.Similar at hsimilar
    simp only [Option.getD_some]
    -- only a list conceals to a list
    cases v with
    | list l =>
      cases w with
      | list l' =>
        simp only [conceal, PyValue.list.injEq] at hsimilar
        exact .inl ⟨l, l', rfl, rfl, forall₂_similar_and hsimilar (hitems l l' rfl rfl)⟩
      | _ => simp only [conceal] at hsimilar; cases hsimilar
    | _ =>
      cases w with
      | list l' => simp only [conceal] at hsimilar; cases hsimilar
      | _ => exact .inr ⟨nofun, nofun⟩

/-- A field that should hold a text: the same text, or none in either. -/
theorem strField {hidden : PyValue → Bool} {es es' : Entries} {key : String}
    (h : Agree hidden es es' key) :
    (∃ text, getKey es key = some (.str text) ∧ getKey es' key = some (.str text)) ∨
    ((∀ text, getKey es key ≠ some (.str text)) ∧ ∀ text, getKey es' key ≠ some (.str text)) := by
  have hshape {v w : PyValue} (h : Similar hidden v w) {text : String} (hv : v = .str text) :
      w = .str text := by
    subst hv
    unfold PyValue.Similar at h
    cases w <;> simp only [conceal] at h <;> cases h
    rfl
  have hmove {es es' : Entries} (h : Agree hidden es es' key) {text : String}
      (hv : getKey es key = some (.str text)) : getKey es' key = some (.str text) := by
    unfold Agree at h
    rw [hv] at h
    obtain ⟨w, hw, hsimilar⟩ := Option.map_eq_some_iff.mp h.symm
    rw [hw, hshape (v := .str text) hsimilar.symm rfl]
  by_cases hex : ∃ text, getKey es key = some (.str text)
  · obtain ⟨text, htext⟩ := hex
    exact .inl ⟨text, htext, hmove h htext⟩
  · exact .inr ⟨fun text htext => hex ⟨text, htext⟩,
      fun text htext => hex ⟨text, hmove h.symm htext⟩⟩

/-- The arguments of a tool call. -/
def callArguments (a : Adapter) (name : String) (v : PyValue) : Except PyError (String × Json) :=
  match v with
  | .mapping arguments => (a.json (.mapping arguments)).map fun j => (name, j)
  | _ => .error (valueError "LangGraph tool call arguments must be a mapping")

/-- The arguments of a tool call go through the redaction, so concealing them changes nothing. -/
theorem callArguments_conceal (name : String) (v : PyValue) :
    callArguments a name (conceal a.hidden v) = callArguments a name v := by
  cases v with
  | mapping entries =>
    have hjson : a.json (.mapping (concealEntries a.hidden entries)) = a.json (.mapping entries) :=
      jsonValue_conceal (.mapping entries) _
    simp only [conceal, callArguments]
    rw [hjson]
  | _ => simp only [conceal, callArguments]

/-- What is read of a tool call: of its arguments nothing that is hidden. -/
theorem callFields_eq {item item' : PyValue} (hs : Similar a.hidden item item')
    (h : ClearCall a item item') : callFields a item = callFields a item' := by
  cases item with
  | mapping fields =>
    obtain ⟨fields', rfl, -⟩ := similar_mapping hs
    obtain ⟨hname, harguments⟩ := h fields fields' rfl rfl
    unfold callFields
    dsimp only
    rcases strField hname with ⟨name, hn, hn'⟩ | ⟨hn, hn'⟩
    · rw [hn, hn']
      exact eq_of_similar (callArguments_conceal name) (harguments.similar_getD (.mapping []))
    · split
      · rename_i hfield
        exact absurd hfield (hn _)
      · rfl
  | _ =>
    cases item' with
    | mapping fields' =>
      obtain ⟨fields, hfields, -⟩ := similar_mapping hs.symm
      cases hfields
    | _ => rfl

/-- A clear tool result is recorded alike. -/
theorem resultFields_eq {item item' : PyValue} (hs : Similar a.hidden item item')
    (h : ClearResult a item item') : resultFields a item = resultFields a item' := by
  cases item with
  | mapping fields =>
    obtain ⟨fields', rfl, -⟩ := similar_mapping hs
    obtain ⟨hname, hok, houtput⟩ := h fields fields' rfl rfl
    unfold resultFields
    dsimp only
    rw [houtput, hok.any_truthy]
    rcases strField hname with ⟨name, hn, hn'⟩ | ⟨hn, hn'⟩
    · rw [hn, hn']
    · split
      · rename_i hfield
        exact absurd hfield (hn _)
      · rfl
  | _ =>
    cases item' with
    | mapping fields' =>
      obtain ⟨fields, hfields, -⟩ := similar_mapping hs.symm
      cases hfields
    | _ => rfl

/-- The tool lists of the final states: lists of items that are read alike, or none in either. -/
theorem toolLists_cases {state state' : Entries} (h : ClearState a state state') :
    (toolLists a state = none ∧ toolLists a state' = none) ∨
      ∃ calls calls' results results', toolLists a state = some (calls, results) ∧
        toolLists a state' = some (calls', results') ∧
        List.Forall₂ (fun v w => callFields a v = callFields a w) calls calls' ∧
        List.Forall₂ (fun v w => resultFields a v = resultFields a w) results results' := by
  unfold toolLists
  rcases listField (h.fields a.mapping.toolCalls (by simp)) h.calls with
    ⟨calls, calls', hcalls, hcalls', hrel⟩ | ⟨hcalls, hcalls'⟩
  · rcases listField (h.fields a.mapping.toolResults (by simp)) h.results with
      ⟨results, results', hresults, hresults', hrel'⟩ | ⟨hresults, hresults'⟩
    · rw [hcalls, hcalls', hresults, hresults']
      exact .inr ⟨calls, calls', results, results', rfl, rfl,
        hrel.imp fun _ _ h => callFields_eq h.1 h.2,
        hrel'.imp fun _ _ h => resultFields_eq h.1 h.2⟩
    · refine .inl ⟨?_, ?_⟩
      · split
        · rename_i hfield
          exact absurd hfield (hresults _)
        · rfl
      · split
        · rename_i hfield
          exact absurd hfield (hresults' _)
        · rfl
  · refine .inl ⟨?_, ?_⟩
    · split
      · rename_i hfield _
        exact absurd hfield (hcalls _)
      · rfl
    · split
      · rename_i hfield _
        exact absurd hfield (hcalls' _)
      · rfl

/-- The modified files of clear states are read alike. -/
theorem readFiles_eq {state state' : Entries} (h : ClearState a state state') :
    readFiles a state = readFiles a state' := by
  unfold readFiles
  rw [eq_of_similar textList_conceal
    ((h.fields a.mapping.modifiedFiles (by simp)).similar_getD (.list []))]

/-- Two computations that raise alike, or both return. -/
def RaiseAlike {α : Type} (x y : Except PyError α) : Prop :=
  x.map (fun _ => ()) = y.map fun _ => ()

/-- Computations that raise alike raise the same, or both return. -/
theorem RaiseAlike.cases {α : Type} {x y : Except PyError α} (h : RaiseAlike x y) :
    (∃ e, x = .error e ∧ y = .error e) ∨ ∃ u v, x = .ok u ∧ y = .ok v := by
  unfold RaiseAlike at h
  cases x with
  | error e =>
    cases y with
    | error e' =>
      cases h
      exact .inl ⟨e, rfl, rfl⟩
    | ok v => cases h
  | ok u =>
    cases y with
    | error e' => cases h
    | ok v => exact .inr ⟨u, v, rfl, rfl⟩

/-- The message of the final response, which may show its role in what it raises. -/
theorem messageOf_alike {v w : PyValue} (hs : Similar a.hidden v w) (h : ClearResponse a v w) :
    RaiseAlike (messageOf a v) (messageOf a w) := by
  cases v with
  | mapping payload =>
    obtain ⟨payload', rfl, -⟩ := similar_mapping hs
    obtain ⟨hrole, hcontent⟩ := h.role payload payload' rfl rfl
    have htext := eq_of_similar (f := fun v => textOf v "content") (textOf_conceal "content")
      (hcontent.similar_getD (.str ""))
    unfold messageOf
    dsimp only at htext ⊢
    rw [hrole, htext]
    rfl
  | null =>
    unfold PyValue.Similar at hs
    cases w <;> simp only [conceal] at hs <;> cases hs
    rfl
  | str s =>
    unfold PyValue.Similar at hs
    cases w <;> simp only [conceal] at hs <;> cases hs
    rfl
  | model name dumped =>
    unfold PyValue.Similar at hs
    cases w with
    | model name' dumped' =>
      have hmessage := h.message
      unfold messageOf
      dsimp only
      cases hv : asMessage (.model name dumped) <;> cases hw : asMessage (.model name' dumped') <;>
        rw [hv, hw] at hmessage
      · rfl
      · cases hmessage
      · cases hmessage
      · rfl
    | _ => simp only [conceal] at hs; cases hs
  | list _ | tuple _ | set _ | dataclass _ | bool _ | int _ | float _ | object _ _ | broken _ =>
    unfold PyValue.Similar at hs
    cases w <;> simp only [conceal] at hs <;> first | rfl | cases hs

/-- Whether the outputs are read, or what is raised, does not depend on hidden places. -/
theorem readOutputs_alike {state state' : Entries} (h : ClearState a state state') :
    RaiseAlike (readOutputs a state) (readOutputs a state') := by
  have htext (key : String) (hkey : Agree a.hidden state state' key) (default : PyValue)
      (field : String) : textOf ((getKey state key).getD default) field =
        textOf ((getKey state' key).getD default) field :=
    eq_of_similar (f := fun v => textOf v field) (textOf_conceal field) (hkey.similar_getD default)
  have hmessage : RaiseAlike (messageOf a ((getKey state a.mapping.finalResponse).getD .null))
      (messageOf a ((getKey state' a.mapping.finalResponse).getD .null)) := by
    rcases (h.fields a.mapping.finalResponse (by simp)).cases with
      ⟨hv, hw⟩ | ⟨v, w, hv, hw, hsimilar⟩
    · rw [hv, hw]
      rfl
    · rw [hv, hw]
      exact messageOf_alike hsimilar (h.response v w hv hw)
  unfold readOutputs
  rw [htext a.mapping.patch (h.fields _ (by simp)),
    htext a.mapping.publicTestOutput (h.fields _ (by simp)),
    htext a.mapping.hiddenTestOutput (h.fields _ (by simp))]
  -- the message is read first; the other outputs are the same texts
  rcases hmessage.cases with ⟨e, hv, hw⟩ | ⟨m, m', hv, hw⟩
  · rw [hv, hw]
    rfl
  · rw [hv, hw]
    cases textOf ((getKey state' a.mapping.patch).getD (.str "")) a.mapping.patch with
    | error e => rfl
    | ok patch =>
      cases textOf ((getKey state' a.mapping.publicTestOutput).getD (.str "not provided"))
        a.mapping.publicTestOutput with
      | error e => rfl
      | ok publicTestOutput =>
        cases textOf ((getKey state' a.mapping.hiddenTestOutput).getD (.str "not provided"))
          a.mapping.hiddenTestOutput <;> rfl

/-! ## The stream -/

/-- What a part records, or raises. -/
theorem trajectoryStep_eq {part part' : Entries} (h : ClearPart a part part') {partType : String}
    (htype : partTypeOf a part = .ok partType) (ns : List String) :
    trajectoryStep a partType ns (dataOf part) = trajectoryStep a partType ns (dataOf part') := by
  have hdata : Similar a.hidden (dataOf part) (dataOf part') := h.data.similar_getD .null
  unfold trajectoryStep messageData eventStep
  rw [messageFields_eq hdata, eventFields_eq hdata]
  by_cases htasks : partType = "tasks"
  · rw [if_pos htasks, if_pos htasks]
    cases hd : dataOf part with
    | mapping d =>
      rw [hd] at hdata
      obtain ⟨d', hd', -⟩ := similar_mapping hdata
      have htask := h.task d d' (htasks ▸ htype) hd hd'
      rw [hd']
      dsimp only
      unfold taskStep
      rw [htask.name, taskFields_eq htask, taskPhase_eq htask]
    | _ =>
      cases hd' : dataOf part' with
      | mapping d' =>
        rw [hd, hd'] at hdata
        obtain ⟨d, hmapping, -⟩ := similar_mapping hdata.symm
        cases hmapping
      | _ => rfl
  · rw [if_neg htasks, if_neg htasks]

variable (a) in
/-- What of the variables of two executions is read at the end. -/
structure Alike (s s' : StreamState) : Prop where
  finalState : s.finalState.map (concealEntries a.hidden) =
    s'.finalState.map (concealEntries a.hidden)
  interrupted : s.interrupted = s'.interrupted

variable (a) in
/-- A result of the stream with what it raises. -/
def SameResult (r r' : StreamState × Option PyError) : Prop :=
  Alike a r.1 r'.1 ∧ r.2 = r'.2

/-- The state a values part leaves is similar to that of the other execution. -/
theorem nextFinal_similar {hidden : PyValue → Bool} {partType : String} {ns : List String}
    {v w : PyValue} (h : Similar hidden v w) {final final' : Option Entries}
    (hfinal : final.map (concealEntries hidden) = final'.map (concealEntries hidden)) :
    (nextFinal partType ns v final).map (concealEntries hidden) =
      (nextFinal partType ns w final').map (concealEntries hidden) := by
  cases v with
  | mapping es =>
    obtain ⟨es', rfl, hes⟩ := similar_mapping h
    unfold nextFinal
    dsimp only
    split
    · exact congrArg some hes
    · exact hfinal
  | _ =>
    cases w with
    | mapping es' =>
      obtain ⟨es, hes, -⟩ := similar_mapping h.symm
      cases hes
    | _ => exact hfinal

/-- Alike states stay alike when the namespace is counted. -/
theorem Alike.entered {s s' : StreamState} (h : Alike a s s') (ns : List String) :
    Alike a (entered s ns) (entered s' ns) := by
  unfold LangGraph.entered
  split
  · exact h
  · exact ⟨h.finalState, h.interrupted⟩

/-- Alike states stay alike when the part's state is kept. -/
theorem Alike.kept {s s' : StreamState} (h : Alike a s s') {part part' : Entries}
    (hpart : ClearPart a part part') (partType : String) (ns : List String) :
    Alike a (kept s part partType ns) (kept s' part' partType ns) := by
  refine ⟨nextFinal_similar (hpart.data.similar_getD .null) h.finalState, ?_⟩
  unfold LangGraph.kept
  rw [h.interrupted, hpart.interrupts.any_truthy]

/-- Alike states stay alike when the same step is appended to both. -/
theorem Alike.appended {s s' : StreamState} (h : Alike a s s')
    (step : Except PyError (Option TrajectoryStep)) :
    SameResult a (appended s step) (appended s' step) := by
  cases step with
  | error e => exact ⟨h, rfl⟩
  | ok step =>
    cases step with
    | none => exact ⟨h, rfl⟩
    | some step => exact ⟨⟨h.finalState, h.interrupted⟩, rfl⟩

/-- One part, from the size check on. -/
theorem consumePart_same {s s' : StreamState} (hs : Alike a s s') {part part' : Entries}
    (h : ClearPart a part part') :
    SameResult a (consumePart a s part) (consumePart a s' part') := by
  have htypes := h.partType
  rw [consumePart_eq, consumePart_eq, ← h.namespaces, ← htypes]
  cases namespaceOf a part with
  | error e => exact ⟨hs, rfl⟩
  | ok ns =>
    dsimp only
    cases htype : partTypeOf a part with
    | error e => exact ⟨hs.entered ns, rfl⟩
    | ok partType =>
      dsimp only
      rw [← trajectoryStep_eq h htype ns]
      exact ((hs.entered ns).kept h partType ns).appended _

variable (a) in
/-- The parts differ in hidden places only, and not in what is read of them without redaction. -/
structure ClearRaw (raw raw' : PyValue) : Prop where
  similar : Similar a.hidden raw raw'
  part : ∀ part part', raw = .mapping part → raw' = .mapping part' → ClearPart a part part'

/-- What raw parts are. -/
theorem ClearRaw.cases {raw raw' : PyValue} (h : ClearRaw a raw raw') :
    (∃ e, streamPart raw = .error e ∧ streamPart raw' = .error e) ∨
      ∃ part part', streamPart raw = .ok part ∧ streamPart raw' = .ok part' ∧
        ClearPart a part part' := by
  cases hraw : streamPart raw with
  | error e => exact .inl ⟨e, rfl, streamPart_error h.similar hraw⟩
  | ok part =>
    cases hraw' : streamPart raw' with
    | error e =>
      rw [streamPart_error h.similar.symm hraw'] at hraw
      cases hraw
    | ok part' =>
      exact .inr ⟨part, part', rfl, rfl,
        h.part part part' (streamPart_ok hraw) (streamPart_ok hraw')⟩

/-- One turn of the stream loop. -/
theorem consume_same {s s' : StreamState} (hs : Alike a s s') {raw raw' : PyValue}
    (h : ClearRaw a raw raw') {parts parts' : List PyValue}
    (hw : Within a s.eventCount s.streamBytes (raw :: parts))
    (hw' : Within a s'.eventCount s'.streamBytes (raw' :: parts')) :
    SameResult a (consume a s raw) (consume a s' raw') := by
  obtain ⟨hcount, hpart⟩ := hw
  obtain ⟨hcount', hpart'⟩ := hw'
  unfold consume
  rw [if_neg (Nat.not_lt.mpr hcount), if_neg (Nat.not_lt.mpr hcount')]
  rcases h.cases with ⟨e, he, he'⟩ | ⟨part, part', hp, hp', hclear⟩
  · rw [he, he']
    exact ⟨⟨hs.finalState, hs.interrupted⟩, rfl⟩
  · rw [hp] at hpart ⊢
    rw [hp'] at hpart' ⊢
    dsimp only at hpart hpart' ⊢
    -- both sizes are computed, or raise the same
    have hsize := hclear.size
    cases hs₁ : jsonSize a.python (.mapping part) with
    | error e =>
      cases hs₂ : jsonSize a.python (.mapping part') with
      | error e' =>
        rw [hs₁, hs₂] at hsize
        cases hsize
        exact ⟨⟨hs.finalState, hs.interrupted⟩, rfl⟩
      | ok size' =>
        rw [hs₁, hs₂] at hsize
        cases hsize
    | ok size =>
      cases hs₂ : jsonSize a.python (.mapping part') with
      | error e' =>
        rw [hs₁, hs₂] at hsize
        cases hsize
      | ok size' =>
        rw [hs₁] at hpart
        rw [hs₂] at hpart'
        dsimp only
        rw [if_neg (Nat.not_lt.mpr hpart.1), if_neg (Nat.not_lt.mpr hpart.2.1),
          if_neg (Nat.not_lt.mpr hpart'.1), if_neg (Nat.not_lt.mpr hpart'.2.1)]
        have hsized : Alike a
            { s with eventCount := s.eventCount + 1, streamBytes := s.streamBytes + size }
            { s' with eventCount := s'.eventCount + 1, streamBytes := s'.streamBytes + size' } :=
          ⟨hs.finalState, hs.interrupted⟩
        exact consumePart_same hsized hclear

/-- The loop over the parts. -/
theorem readStream_same {parts parts' : List PyValue}
    (h : List.Forall₂ (ClearRaw a) parts parts') {s s' : StreamState} (hs : Alike a s s')
    (hw : Within a s.eventCount s.streamBytes parts)
    (hw' : Within a s'.eventCount s'.streamBytes parts') :
    SameResult a (readStream a s parts) (readStream a s' parts') := by
  induction h generalizing s s' with
  | nil => exact ⟨hs, rfl⟩
  | @cons raw raw' parts parts' hraw _ ih =>
    obtain ⟨halike, hraised⟩ := consume_same hs hraw hw hw'
    rw [readStream_cons, readStream_cons, ← hraised]
    cases hfirst : (consume a s raw).2 with
    | some e => exact ⟨halike, rfl⟩
    | none =>
      exact ih halike ((consume_trace hw []).2 hfirst)
        ((consume_trace hw' []).2 (hraised ▸ hfirst))

/-- **The streams end alike**: their final states differ in hidden places only. -/
theorem stream_alike {e e' : Execution} (hbefore : e.before = e'.before)
    (h : List.Forall₂ (ClearRaw a) e.parts e'.parts) (hw : WithinLimits a e)
    (hw' : WithinLimits a e') : Alike a (stream a e).1 (stream a e').1 := by
  have hread : SameResult a (readStream a .initial e.parts) (readStream a .initial e'.parts) :=
    readStream_same h ⟨rfl, rfl⟩ hw hw'
  unfold stream
  rw [← hbefore]
  cases e.before with
  | some raised => exact ⟨rfl, rfl⟩
  | none =>
    rcases hs : readStream a .initial e.parts with ⟨s, raised⟩
    rcases hs' : readStream a .initial e'.parts with ⟨s', raised'⟩
    rw [hs, hs'] at hread
    obtain ⟨halike, hraised⟩ := hread
    cases hraised
    cases raised <;> exact halike

end

end AEControl.LangGraph
