/-
  Untyped documents: fields of JSON objects, paths through them, `bool(value)` and `str(value)`.

  A path ends in `none` where a key is missing or a value on the way is no object, which is where
  code that checks `isinstance(value, dict)` step by step gives up (`getAt_of_obj`).
-/
import AEControl.Lib.Json

namespace AEControl.Json

/-- `fields.get(key)`. -/
def getField (fields : List (String × Json)) (key : String) : Option Json :=
  (fields.find? fun f => f.1 = key).map Prod.snd

/-- The value a path of keys leads to. -/
def getAt : List String → Json → Option Json
  | [], j => some j
  | key :: path, .obj fields => (getField fields key).bind (getAt path)
  | _ :: _, _ => none

/-- `value == text`. -/
def isText (value : Option Json) (text : String) : Bool :=
  match value with
  | some (.str s) => s = text
  | _ => false

/-- `bool(value)`. -/
def truthy : Json → Bool
  | .null => false
  | .bool b => b
  | .int n => n ≠ 0
  | .float x => x ≠ .zero && x ≠ .negZero
  | .str s => s ≠ ""
  | .arr items => !items.isEmpty
  | .obj fields => !fields.isEmpty

/-- `str(x)` of a float. -/
def floatStr : PyFloat → String
  | .finite repr => repr.val
  | .infinity false => "inf"
  | .infinity true => "-inf"
  | .nan => "nan"

/-- `str(value)`, with `repr` for lists and dictionaries. -/
def pyStr (repr : Json → String) : Json → String
  | .null => "None"
  | .bool true => "True"
  | .bool false => "False"
  | .int n => toString n
  | .float x => floatStr x
  | .str s => s
  | .arr items => repr (.arr items)
  | .obj fields => repr (.obj fields)

end AEControl.Json
