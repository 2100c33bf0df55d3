/-
  Python values as code that accepts anything sees them: scalars, collections, mappings with any
  keys, models that are dumped, and objects known by their `str` alone.

  `conceal` blanks what is stored under the hidden keys of every mapping, at any depth.  Two values
  that are equal once concealed differ in hidden places only; such values have the same shape, which
  is what code that never looks at hidden places depends on.
-/
import AEControl.Lib.Dict
import AEControl.Lib.Except
import AEControl.Lib.JsonPath

namespace AEControl

/-- An ordinary exception: the name of its type, its text, and whether it is a `ValueError`. -/
structure PyError where
  errorType : String
  message : String
  isValueError : Bool
  deriving DecidableEq

/-- A Python value. -/
inductive PyValue where
  /-- `None`. -/
  | null
  | bool (b : Bool)
  | int (n : Int)
  | float (x : Json.PyFloat)
  | str (s : String)
  | list (items : List PyValue)
  | tuple (items : List PyValue)
  /-- `set` and `frozenset`, in the order of iteration. -/
  | set (items : List PyValue)
  | mapping (entries : List (PyValue × PyValue))
  /-- A pydantic model, by its class and what `model_dump(mode="json")` gives. -/
  | model (name : String) (dumped : PyValue)
  /-- An instance of a dataclass, by what `asdict` gives. -/
  | dataclass (fields : PyValue)
  /-- Anything else, by its `str` and its truth. -/
  | object (text : String) (truth : Bool)
  /-- An object whose conversion raises. -/
  | broken (e : PyError)

namespace PyValue

abbrev Entries := List (PyValue × PyValue)

/-- What of the interpreter the conversions depend on: `str.lower`, `str` and iteration of values
    that are not built in, `repr`, and the limit on nested calls. -/
structure Python where
  lower : String → String
  str : PyValue → Except PyError String
  iter : PyValue → Except PyError (List PyValue)
  repr : PyValue → Except PyError String
  /-- The calls of a recursive conversion inside each other that its callers leave room for. -/
  recursionLimit : ℕ
  /-- The text of a `RecursionError`. -/
  recursionMessage : String

/-- A call beyond the limit. -/
def Python.recursionError (P : Python) : PyError := ⟨"RecursionError", P.recursionMessage, false⟩

/-- `int.__str__` beyond its digit limit. -/
def digitsError : PyError :=
  ⟨"ValueError", "Exceeds the limit (4300 digits) for integer string conversion; use " ++
    "sys.set_int_max_str_digits() to increase the limit", true⟩

/-- `str(value)`. -/
def pyStr (P : Python) : PyValue → Except PyError String
  | .null => .ok "None"
  | .bool true => .ok "True"
  | .bool false => .ok "False"
  | .int n => if Json.intPrintable n then .ok (toString n) else .error digitsError
  | .float x => .ok (Json.floatStr x)
  | .str s => .ok s
  | .object text _ => .ok text
  | .broken e => .error e
  | v => P.str v

/-- `bool(value)`. -/
def truthy : PyValue → Bool
  | .null => false
  | .bool b => b
  | .int n => n ≠ 0
  | .float x => x ≠ .zero && x ≠ .negZero
  | .str s => s ≠ ""
  | .list items | .tuple items | .set items => !items.isEmpty
  | .mapping entries => !entries.isEmpty
  | .object _ truth => truth
  | .model _ _ | .dataclass _ | .broken _ => true

/-- The items a `for` loop over the value takes. -/
def iterate (P : Python) : PyValue → Except PyError (List PyValue)
  | .list items | .tuple items | .set items => .ok items
  | .mapping entries => .ok (entries.map Prod.fst)
  | .str s => .ok (s.toList.map fun c => .str (String.singleton c))
  | v => P.iter v

/-- The value is the text. -/
def isStr (v : PyValue) (text : String) : Bool :=
  match v with
  | .str s => s = text
  | _ => false

/-- `entries.get(key)` of a text key. -/
def getKey (entries : Entries) (key : String) : Option PyValue :=
  (entries.find? fun e => isStr e.1 key).map Prod.snd

mutual

/-- A JSON value is a Python value. -/
def ofJson : Json → PyValue
  | .null => .null
  | .bool b => .bool b
  | .int n => .int n
  | .float x => .float x
  | .str s => .str s
  | .arr items => .list (ofItems items)
  | .obj fields => .mapping (ofFields fields)

def ofItems : List Json → List PyValue
  | [] => []
  | j :: js => ofJson j :: ofItems js

def ofFields : List (String × Json) → Entries
  | [] => []
  | (k, j) :: fs => (.str k, ofJson j) :: ofFields fs

end

/-! ## `json.dumps` -/

mutual

/-- `len(json.dumps(value))`; `none` for the `ValueError` of a long integer. -/
def dumpsSize : Json → Option ℕ
  | .null => some 4
  | .bool true => some 4
  | .bool false => some 5
  | .int n => if Json.intPrintable n then some n.repr.length else none
  | .float x => some x.text.length
  | .str s => some (Json.quote s).length
  | .arr items => (itemsSize items).map (2 + ·)
  | .obj fields => (fieldsSize fields).map (2 + ·)

def itemsSize : List Json → Option ℕ
  | [] => some 0
  | [x] => dumpsSize x
  | x :: y :: xs => do
    let head ← dumpsSize x
    let tail ← itemsSize (y :: xs)
    return head + 2 + tail

def fieldsSize : List (String × Json) → Option ℕ
  | [] => some 0
  | [(k, v)] => (dumpsSize v).map ((Json.quote k).length + 2 + ·)
  | (k, v) :: f :: fs => do
    let head ← dumpsSize v
    let tail ← fieldsSize (f :: fs)
    return (Json.quote k).length + 2 + head + 2 + tail

end

/-! ## Hidden places -/

/-- What stands in a hidden place once it is concealed. -/
def blank : PyValue := .str ""

mutual

/-- Blank what is stored under hidden keys. -/
def conceal (hidden : PyValue → Bool) : PyValue → PyValue
  | .list items => .list (concealItems hidden items)
  | .tuple items => .tuple (concealItems hidden items)
  | .set items => .set (concealItems hidden items)
  | .mapping entries => .mapping (concealEntries hidden entries)
  | .model name dumped => .model name (conceal hidden dumped)
  | .dataclass fields => .dataclass (conceal hidden fields)
  | .null => .null
  | .bool b => .bool b
  | .int n => .int n
  | .float x => .float x
  | .str s => .str s
  | .object text truth => .object text truth
  | .broken e => .broken e

def concealItems (hidden : PyValue → Bool) : List PyValue → List PyValue
  | [] => []
  | v :: vs => conceal hidden v :: concealItems hidden vs

def concealEntries (hidden : PyValue → Bool) : Entries → Entries
  | [] => []
  | (k, v) :: es => (k, if hidden k then blank else conceal hidden v) :: concealEntries hidden es

end

/-- Two values differ in hidden places only. -/
def Similar (hidden : PyValue → Bool) (v w : PyValue) : Prop := conceal hidden v = conceal hidden w

variable {hidden : PyValue → Bool}

theorem Similar.refl (v : PyValue) : Similar hidden v v := rfl

theorem concealItems_eq_map (items : List PyValue) :
    concealItems hidden items = items.map (conceal hidden) := by
  induction items with
  | nil => rfl
  | cons v vs ih => rw [concealItems, ih, List.map_cons]

theorem concealEntries_eq_map (entries : Entries) : concealEntries hidden entries =
    entries.map fun e => (e.1, if hidden e.1 then blank else conceal hidden e.2) := by
  induction entries with
  | nil => rfl
  | cons e es ih => rw [concealEntries, ih, List.map_cons]

/-- Hidden places do not decide truth. -/
theorem truthy_conceal (v : PyValue) : truthy (conceal hidden v) = truthy v := by
  cases v with
  | list items | tuple items | set items =>
    simp [conceal, truthy, concealItems_eq_map]
  | mapping entries => simp [conceal, truthy, concealEntries_eq_map]
  | null | bool _ | int _ | float _ | str _ | model _ _ | dataclass _ | object _ _ | broken _ => rfl

theorem isStr_iff {v : PyValue} {text : String} : isStr v text = true ↔ v = .str text := by
  unfold isStr
  split <;> simp_all

/-- What a key reads in a concealed mapping. -/
theorem getKey_concealEntries (entries : Entries) (key : String) :
    getKey (concealEntries hidden entries) key =
      (getKey entries key).map fun v => if hidden (.str key) then blank else conceal hidden v := by
  induction entries with
  | nil => rfl
  | cons e es ih =>
    unfold getKey at ih ⊢
    rw [concealEntries]
    cases hkey : isStr e.1 key with
    | false =>
      simp only [List.find?_cons, hkey]
      exact ih
    | true =>
      simp only [List.find?_cons, hkey, Option.map_some]
      rw [isStr_iff.mp hkey]

/-- A key is there or not, hidden or not. -/
theorem isSome_getKey {es es' : Entries} (h : concealEntries hidden es = concealEntries hidden es')
    (key : String) : (getKey es key).isSome = (getKey es' key).isSome := by
  have hread := congrArg (fun es => (getKey es key).isSome) h
  simpa only [getKey_concealEntries, Option.isSome_map] using hread

end PyValue

end AEControl
