/-
  JSON values as Python holds them, and `json.dumps(…, sort_keys=True, separators=(",", ":"),
  ensure_ascii=True)` of them.

  The printed form of a value is a prefix code: `print_append_inj` reads a value and what follows
  it back off one text, so values with equal texts are equal, field order included.  Sorting the
  fields of every object (`sortFields`) makes the order canonical.

  A finite float is represented by the text `float.__repr__` gives it, which determines it; an
  integer is never printed like a float.
-/
import Mathlib.Data.List.Sort
import Mathlib.Data.String.Basic
import Std.Data.String.ToInt
import AEControl.Lib.Dict
import AEControl.Lib.Text

namespace AEControl.Json

open Text

/-! ## Values -/

/-- The characters of a float's text. -/
def isFloatChar (c : Char) : Bool := c.isDigit || c = '.' || c = 'e' || c = '+' || c = '-'

/-- A text `float.__repr__` can give a finite float: it has a fraction or an exponent. -/
def isFloatRepr (s : String) : Bool :=
  s.toList.all isFloatChar && s.toList.any fun c => c = '.' || c = 'e'

/-- A Python float, by its text. -/
inductive PyFloat where
  | finite (repr : { s : String // isFloatRepr s = true })
  | infinity (negative : Bool)
  | nan
  deriving DecidableEq

namespace PyFloat

/-- `0.0`. -/
def zero : PyFloat := finite ⟨"0.0", by decide⟩

/-- `-0.0`. -/
def negZero : PyFloat := finite ⟨"-0.0", by decide⟩

/-- `math.isfinite`. -/
def isFinite : PyFloat → Bool
  | finite _ => true
  | _ => false

/-- The text `json.dumps` writes for a float. -/
def text : PyFloat → List Char
  | finite repr => repr.val.toList
  | infinity false => "Infinity".toList
  | infinity true => "-Infinity".toList
  | nan => "NaN".toList

end PyFloat

end AEControl.Json

namespace AEControl

/-- A JSON value as `json.loads` returns it: objects keep their insertion order. -/
inductive Json where
  | null
  | bool (b : Bool)
  | int (n : Int)
  | float (x : Json.PyFloat)
  | str (s : String)
  | arr (items : List Json)
  | obj (fields : List (String × Json))

end AEControl

namespace AEControl.Json

open Text

/-! ## Canonical order -/

/-- A field list in the order of `sort_keys=True`. -/
def sortFields (fields : List (String × Json)) : List (String × Json) :=
  fields.insertionSort fun a b => a.1 ≤ b.1

mutual

/-- Sort the fields of every object and replace `-0.0` by `0.0`: `_normalize_json` together with
    `sort_keys=True`. -/
def canon : Json → Json
  | null => null
  | bool b => bool b
  | int n => int n
  | float x => float (if x = PyFloat.negZero then PyFloat.zero else x)
  | str s => str s
  | arr items => arr (canonItems items)
  | obj fields => obj (sortFields (canonFields fields))

def canonItems : List Json → List Json
  | [] => []
  | x :: xs => canon x :: canonItems xs

def canonFields : List (String × Json) → List (String × Json)
  | [] => []
  | (k, v) :: fs => (k, canon v) :: canonFields fs

end

/-! ## What `json.dumps` accepts -/

/-- The digit limit of `int.__str__`. -/
def intPrintable (n : Int) : Bool := n.natAbs < 10 ^ 4300

/-- A one-digit integer prints. -/
theorem intPrintable_of_natAbs_lt {n : Int} (h : n.natAbs < 10) : intPrintable n = true := by
  have hpow : ∀ k : ℕ, k ≠ 0 → n.natAbs < 10 ^ k := fun k hk =>
    Nat.lt_of_lt_of_le h (Nat.le_self_pow hk 10)
  unfold intPrintable
  rw [decide_eq_true_iff]
  apply hpow
  decide

mutual

/-- `allow_nan=False` and the digit limit raise no `ValueError`. -/
def encodable : Json → Bool
  | int n => intPrintable n
  | float x => x.isFinite
  | arr items => encodableItems items
  | obj fields => encodableFields fields
  | _ => true

def encodableItems : List Json → Bool
  | [] => true
  | x :: xs => encodable x && encodableItems xs

def encodableFields : List (String × Json) → Bool
  | [] => true
  | (_, v) :: fs => encodable v && encodableFields fs

end

/-! ## Nesting -/

mutual

/-- The calls a recursive walk over a value makes inside each other. -/
def height : Json → ℕ
  | arr items => heightItems items + 1
  | obj fields => heightFields fields + 1
  | _ => 1

def heightItems : List Json → ℕ
  | [] => 0
  | x :: xs => max (height x) (heightItems xs)

def heightFields : List (String × Json) → ℕ
  | [] => 0
  | (_, v) :: fs => max (height v) (heightFields fs)

end

/-- So many lists inside each other. -/
def nestedLists : ℕ → Json
  | 0 => null
  | depth + 1 => arr [nestedLists depth]

/-- The height of lists inside each other is their number, with one for what is innermost. -/
theorem height_nestedLists (depth : ℕ) : (nestedLists depth).height = depth + 1 := by
  induction depth with
  | zero => rfl
  | succ depth ih => rw [nestedLists, height, heightItems, heightItems, Nat.max_zero, ih]

/-! ## Printing -/

/-- The UTF-16 code units of a character. -/
def utf16 (c : Char) : List Nat :=
  if c.toNat < 0x10000 then [c.toNat]
  else [0xd800 + (c.toNat - 0x10000) / 0x400, 0xdc00 + (c.toNat - 0x10000) % 0x400]

/-- `\uXXXX`. -/
def escapeUnit (n : Nat) : List Char := '\\' :: 'u' :: hexDigits 4 n

/-- The two-character escapes. -/
def shortEscape (c : Char) : Option Char :=
  if c = '"' then some '"'
  else if c = '\\' then some '\\'
  else if c = '\n' then some 'n'
  else if c = '\r' then some 'r'
  else if c = '\t' then some 't'
  else if c = '\x0c' then some 'f'
  else if c = '\x08' then some 'b'
  else none

/-- `py_encode_basestring_ascii` on one character. -/
def escapeChar (c : Char) : List Char :=
  match shortEscape c with
  | some d => ['\\', d]
  | none => if 32 ≤ c.toNat && c.toNat ≤ 126 then [c] else (utf16 c).flatMap escapeUnit

/-- A string literal. -/
def quote (s : String) : List Char := '"' :: (s.toList.flatMap escapeChar ++ ['"'])

mutual

/-- `json.dumps` with the separators `,` and `:`. -/
def print : Json → List Char
  | null => "null".toList
  | bool true => "true".toList
  | bool false => "false".toList
  | int n => n.repr.toList
  | float x => x.text
  | str s => quote s
  | arr [] => ['[', ']']
  | arr (x :: xs) => '[' :: (print x ++ printItems xs)
  | obj [] => ['{', '}']
  | obj ((k, v) :: fs) => '{' :: (quote k ++ ':' :: (print v ++ printFields fs))

/-- The items after the first, and the closing bracket. -/
def printItems : List Json → List Char
  | [] => [']']
  | x :: xs => ',' :: (print x ++ printItems xs)

/-- The fields after the first, and the closing brace. -/
def printFields : List (String × Json) → List Char
  | [] => ['}']
  | (k, v) :: fs => ',' :: (quote k ++ ':' :: (print v ++ printFields fs))

end

/-- The canonical text of a value. -/
def canonicalText (j : Json) : String := String.ofList (print (canon j))

/-- An object prints its braces at least. -/
theorem print_obj_ne_nil (fields : List (String × Json)) : print (obj fields) ≠ [] := by
  cases fields <;> simp [print]

/-! ## String literals are a prefix code -/

/-- A two-character escape is read back by its second character. -/
def shortUnescape : Char → Char
  | 'n' => '\n'
  | 'r' => '\r'
  | 't' => '\t'
  | 'f' => '\x0c'
  | 'b' => '\x08'
  | d => d

/-- A short escape is read back, and is no `\u`. -/
theorem shortEscape_some {c d : Char} (h : shortEscape c = some d) :
    shortUnescape d = c ∧ d ≠ 'u' := by
  unfold shortEscape at h
  split_ifs at h with h₁ h₂ h₃ h₄ h₅ h₆ h₇ <;> cases h
  · exact ⟨h₁.symm, by decide⟩
  · exact ⟨h₂.symm, by decide⟩
  · exact ⟨h₃.symm, by decide⟩
  · exact ⟨h₄.symm, by decide⟩
  · exact ⟨h₅.symm, by decide⟩
  · exact ⟨h₆.symm, by decide⟩
  · exact ⟨h₇.symm, by decide⟩

/-- A character is no surrogate and is in the range of Unicode. -/
theorem toNat_valid (c : Char) : c.toNat < 0xd800 ∨ (0xdfff < c.toNat ∧ c.toNat < 0x110000) :=
  c.valid

/-- A unit is read off by its length. -/
theorem escapeUnit_append_inj {m n : Nat} (hm : m < 16 ^ 4) (hn : n < 16 ^ 4) {x y : List Char}
    (h : escapeUnit m ++ x = escapeUnit n ++ y) : m = n ∧ x = y := by
  simp only [escapeUnit, List.cons_append, List.cons.injEq, true_and] at h
  obtain ⟨hdigits, hrest⟩ := List.append_inj h (by rw [length_hexDigits, length_hexDigits])
  exact ⟨hexDigits_inj hm hn hdigits, hrest⟩

/-- The code units of a character determine it: a surrogate is no character. -/
theorem utf16_append_inj {c c' : Char} {x y : List Char}
    (h : (utf16 c).flatMap escapeUnit ++ x = (utf16 c').flatMap escapeUnit ++ y) :
    c = c' ∧ x = y := by
  have hc := toNat_valid c
  have hc' := toNat_valid c'
  have hbound : (16 : Nat) ^ 4 = 0x10000 := by norm_num
  unfold utf16 at h
  split_ifs at h with hbmp hbmp'
  · simp only [List.flatMap_cons, List.flatMap_nil, List.append_nil] at h
    obtain ⟨hn, hxy⟩ := escapeUnit_append_inj (by omega) (by omega) h
    exact ⟨Char.toNat_inj.mp hn, hxy⟩
  · simp only [List.flatMap_cons, List.flatMap_nil, List.append_nil, List.append_assoc] at h
    obtain ⟨hn, -⟩ := escapeUnit_append_inj (by omega) (by omega) h
    omega
  · simp only [List.flatMap_cons, List.flatMap_nil, List.append_nil, List.append_assoc] at h
    obtain ⟨hn, -⟩ := escapeUnit_append_inj (by omega) (by omega) h
    omega
  · simp only [List.flatMap_cons, List.flatMap_nil, List.append_nil, List.append_assoc] at h
    obtain ⟨hhigh, h⟩ := escapeUnit_append_inj (by omega) (by omega) h
    obtain ⟨hlow, hxy⟩ := escapeUnit_append_inj (by omega) (by omega) h
    exact ⟨Char.toNat_inj.mp (by omega), hxy⟩

/-- Unescaped characters are neither a quote nor a backslash. -/
theorem shortEscape_none {c : Char} (h : shortEscape c = none) : c ≠ '"' ∧ c ≠ '\\' := by
  constructor <;> rintro rfl <;> cases h

/-- What is escaped by its code units starts with `\u`. -/
theorem utf16_escape_head (c : Char) :
    ∃ rest, (utf16 c).flatMap escapeUnit = '\\' :: 'u' :: rest := by
  unfold utf16
  split_ifs <;> exact ⟨_, rfl⟩

/-- **An escaped character is read off the front of a text in one way.** The cases are the short
    escapes, the code units and the characters written as they are. -/
theorem escapeChar_append_inj {c c' : Char} {x y : List Char}
    (h : escapeChar c ++ x = escapeChar c' ++ y) : c = c' ∧ x = y := by
  obtain ⟨rest, hrest⟩ := utf16_escape_head c
  obtain ⟨rest', hrest'⟩ := utf16_escape_head c'
  unfold escapeChar at h
  -- short, long and no escape differ in their first two characters
  cases hs : shortEscape c with
  | some d =>
    cases hs' : shortEscape c' with
    | some d' =>
      simp only [hs, hs', List.cons_append, List.nil_append, List.cons.injEq, true_and] at h
      obtain ⟨rfl, hxy⟩ := h
      exact ⟨(shortEscape_some hs).1.symm.trans (shortEscape_some hs').1, hxy⟩
    | none =>
      simp only [hs, hs'] at h
      split_ifs at h with hp'
      · exact absurd (List.cons.inj h).1.symm (shortEscape_none hs').2
      · rw [hrest'] at h
        simp only [List.cons_append, List.cons.injEq] at h
        exact absurd h.2.1 (shortEscape_some hs).2
  | none =>
    cases hs' : shortEscape c' with
    | some d' =>
      simp only [hs, hs'] at h
      split_ifs at h with hp
      · exact absurd (List.cons.inj h).1 (shortEscape_none hs).2
      · rw [hrest] at h
        simp only [List.cons_append, List.cons.injEq] at h
        exact absurd h.2.1.symm (shortEscape_some hs').2
    | none =>
      simp only [hs, hs'] at h
      split_ifs at h with hp hp' hp'
      · simpa using h
      · rw [hrest'] at h
        exact absurd (List.cons.inj h).1 (shortEscape_none hs).2
      · rw [hrest] at h
        exact absurd (List.cons.inj h).1.symm (shortEscape_none hs').2
      · exact utf16_append_inj h

/-- No escaped character starts like the closing quote. -/
theorem escapeChar_head_ne (c : Char) (x y : List Char) : escapeChar c ++ x ≠ '"' :: y := by
  intro h
  obtain ⟨rest, hrest⟩ := utf16_escape_head c
  unfold escapeChar at h
  cases hs : shortEscape c with
  | some d => simp [hs] at h
  | none =>
    simp only [hs] at h
    split_ifs at h with hp
    · exact (shortEscape_none hs).1 (List.cons.inj h).1
    · rw [hrest] at h
      simp at h

/-- **A quoted text ends at its closing quote**: its body is read off in one way, by induction on
    the body. -/
theorem escape_append_inj : ∀ {cs ds : List Char} {x y : List Char},
    cs.flatMap escapeChar ++ '"' :: x = ds.flatMap escapeChar ++ '"' :: y → cs = ds ∧ x = y
  | [], [], x, y, h => by simpa using h
  | [], d :: ds, x, y, h => by
    rw [List.flatMap_cons, List.append_assoc] at h
    exact absurd h.symm (escapeChar_head_ne d _ _)
  | c :: cs, [], x, y, h => by
    rw [List.flatMap_cons, List.append_assoc] at h
    exact absurd h (escapeChar_head_ne c _ _)
  | c :: cs, d :: ds, x, y, h => by
    rw [List.flatMap_cons, List.flatMap_cons, List.append_assoc, List.append_assoc] at h
    obtain ⟨rfl, hrest⟩ := escapeChar_append_inj h
    obtain ⟨rfl, hxy⟩ := escape_append_inj hrest
    exact ⟨rfl, hxy⟩

/-- A literal and what follows it are read off the text. -/
theorem quote_append_inj {s t : String} {x y : List Char} (h : quote s ++ x = quote t ++ y) :
    s = t ∧ x = y := by
  simp only [quote, List.cons_append, List.append_assoc, List.nil_append, List.cons.injEq,
    true_and] at h
  obtain ⟨hst, hxy⟩ := escape_append_inj h
  exact ⟨String.toList_inj.mp hst, hxy⟩

/-! ## Scalars print as tokens -/

/-- The characters that delimit tokens. -/
def isDelimiter (c : Char) : Bool :=
  c = ',' || c = ':' || c = '"' || c = '[' || c = ']' || c = '{' || c = '}'

/-- The text of a value that is not a string, an array or an object. -/
def token : Json → Option (List Char)
  | null => some "null".toList
  | bool true => some "true".toList
  | bool false => some "false".toList
  | int n => some n.repr.toList
  | float x => some x.text
  | _ => none

/-- The value a token denotes. -/
def readToken (t : List Char) : Option Json :=
  if t = "null".toList then some null
  else if t = "true".toList then some (bool true)
  else if t = "false".toList then some (bool false)
  else if t = "Infinity".toList then some (float (.infinity false))
  else if t = "-Infinity".toList then some (float (.infinity true))
  else if t = "NaN".toList then some (float .nan)
  else if h : isFloatRepr (String.ofList t) = true then some (float (.finite ⟨_, h⟩))
  else (String.ofList t).toInt?.map int

/-- No character of a float is a delimiter. -/
theorem not_delimiter_of_isFloatChar {c : Char} (h : isFloatChar c = true) :
    isDelimiter c = false := by
  by_contra hd
  simp only [isDelimiter, Bool.not_eq_false, Bool.or_eq_true, decide_eq_true_eq] at hd
  rcases hd with (((((rfl | rfl) | rfl) | rfl) | rfl) | rfl) | rfl <;> exact absurd h (by decide)

/-- The digits of an integer are characters of a float, none of them a point or an exponent. -/
theorem isFloatChar_of_repr {n : Int} {c : Char} (hc : c ∈ n.repr.toList) :
    isFloatChar c = true ∧ c ≠ '.' ∧ c ≠ 'e' := by
  have hdigit : ∀ {m : Nat}, c ∈ m.repr.toList → isFloatChar c = true ∧ c ≠ '.' ∧ c ≠ 'e' := by
    intro m hm
    rw [Nat.toList_repr] at hm
    have hd := Nat.isDigit_of_mem_toDigits (by decide) (by decide) hm
    refine ⟨by simp [isFloatChar, hd], ?_, ?_⟩ <;> rintro rfl <;> exact absurd hd (by decide)
  cases n with
  | ofNat m => exact hdigit hc
  | negSucc m =>
    have hc : c ∈ '-' :: (m + 1).repr.toList := by simpa [Int.repr] using hc
    rcases List.mem_cons.mp hc with rfl | hc
    · decide
    · exact hdigit hc

/-- No integer is written like a float: it has neither a point nor an exponent. -/
theorem isFloatRepr_repr (n : Int) : isFloatRepr n.repr = false := by
  have hno : (n.repr.toList.any fun c => c = '.' || c = 'e') = false := by
    refine List.any_eq_false.mpr fun c hc => ?_
    obtain ⟨-, hdot, he⟩ := isFloatChar_of_repr hc
    simp [hdot, he]
  rw [isFloatRepr, hno, Bool.and_false]

/-- A token is read back to the value it was printed from. -/
theorem readToken_token {j : Json} {t : List Char} (h : token j = some t) :
    readToken t = some j := by
  cases j with
  | null => cases h; rfl
  | bool b => cases b <;> cases h <;> rfl
  | int n =>
    obtain rfl := Option.some.inj h
    -- a number is no keyword: each keyword has a letter that no number has
    have hne : ∀ s : String, (∃ c ∈ s.toList, isFloatChar c = false) →
        n.repr.toList ≠ s.toList := by
      rintro s ⟨c, hc, hbad⟩ he
      rw [← he] at hc
      rw [(isFloatChar_of_repr hc).1] at hbad
      cases hbad
    unfold readToken
    rw [if_neg (hne "null" ⟨'u', by decide⟩), if_neg (hne "true" ⟨'t', by decide⟩),
      if_neg (hne "false" ⟨'f', by decide⟩), if_neg (hne "Infinity" ⟨'I', by decide⟩),
      if_neg (hne "-Infinity" ⟨'I', by decide⟩), if_neg (hne "NaN" ⟨'N', by decide⟩),
      String.ofList_toList, dif_neg (by rw [isFloatRepr_repr]; decide), Int.toInt?_repr]
    rfl
  | float x =>
    obtain rfl := Option.some.inj h
    cases x with
    | infinity negative => cases negative <;> rfl
    | nan => rfl
    | finite repr =>
      obtain ⟨s, hs⟩ := repr
      have hne : ∀ s' : String, isFloatRepr s' = false → s.toList ≠ s'.toList := by
        intro s' hs' he
        rw [String.toList_inj.mp he, hs'] at hs
        cases hs
      show readToken s.toList = _
      unfold readToken
      rw [if_neg (hne "null" (by decide)), if_neg (hne "true" (by decide)),
        if_neg (hne "false" (by decide)), if_neg (hne "Infinity" (by decide)),
        if_neg (hne "-Infinity" (by decide)), if_neg (hne "NaN" (by decide)),
        dif_pos (by rw [String.ofList_toList]; exact hs)]
      simp only [String.ofList_toList]
  | str s => cases h
  | arr items => cases h
  | obj fields => cases h

/-- The characters of a token, one by one. -/
theorem chars_of_all {t : List Char} (h : t.all (fun c => !isDelimiter c) = true) (hne : t ≠ []) :
    t ≠ [] ∧ ∀ c ∈ t, isDelimiter c = false :=
  ⟨hne, fun c hc => by simpa using List.all_eq_true.mp h c hc⟩

/-- A token is never empty and has no delimiter in it. -/
theorem token_chars {j : Json} {t : List Char} (h : token j = some t) :
    t ≠ [] ∧ ∀ c ∈ t, isDelimiter c = false := by
  cases j with
  | null => cases h; exact chars_of_all (by decide) (by decide)
  | bool b => cases b <;> cases h <;> exact chars_of_all (by decide) (by decide)
  | int n =>
    obtain rfl := Option.some.inj h
    refine ⟨?_, fun c hc => not_delimiter_of_isFloatChar (isFloatChar_of_repr hc).1⟩
    cases n with
    | ofNat m => simp [Int.repr]
    | negSucc m => simp [Int.repr]
  | float x =>
    obtain rfl := Option.some.inj h
    cases x with
    | infinity negative => cases negative <;> exact chars_of_all (by decide) (by decide)
    | nan => exact chars_of_all (by decide) (by decide)
    | finite repr =>
      obtain ⟨s, hs⟩ := repr
      obtain ⟨hall, hany⟩ := Bool.and_eq_true_iff.mp hs
      refine ⟨fun he => ?_, fun c hc => ?_⟩
      · have he : s.toList = [] := he
        rw [he] at hany
        cases hany
      · exact not_delimiter_of_isFloatChar (List.all_eq_true.mp hall c hc)
  | str s => cases h
  | arr items => cases h
  | obj fields => cases h

/-- A value with a token prints as it. -/
theorem print_of_token {j : Json} {t : List Char} (h : token j = some t) : print j = t := by
  cases j with
  | bool b => cases b <;> exact Option.some.inj h
  | null => exact Option.some.inj h
  | int n => exact Option.some.inj h
  | float x => exact Option.some.inj h
  | str s => cases h
  | arr items => cases h
  | obj fields => cases h

/-! ## Printing is a prefix code -/

/-- What may follow a value in a text: nothing, or a delimiter. -/
def Stop (s : List Char) : Prop := ∀ c rest, s = c :: rest → isDelimiter c = true

/-- A token may end where the text does. -/
theorem stop_nil : Stop [] := fun _ _ h => by cases h

/-- A token may end before a delimiter. -/
theorem stop_cons {c : Char} {s : List Char} (h : isDelimiter c = true) : Stop (c :: s) :=
  fun _ _ he => (List.cons.inj he).1 ▸ h

/-- What follows an item starts with a comma or a bracket, so a token may end there. -/
theorem stop_printItems (xs : List Json) (s : List Char) : Stop (printItems xs ++ s) := by
  cases xs <;> exact stop_cons (by decide)

/-- What follows a field starts with a comma or a brace, so a token may end there. -/
theorem stop_printFields (fs : List (String × Json)) (s : List Char) :
    Stop (printFields fs ++ s) := by
  rcases fs with _ | ⟨⟨k, v⟩, fs⟩ <;> exact stop_cons (by decide)

/-- Two delimiter-free texts before stops are the same text before the same stop. -/
theorem token_append_inj : ∀ {t u x y : List Char}, (∀ c ∈ t, isDelimiter c = false) →
    (∀ c ∈ u, isDelimiter c = false) → Stop x → Stop y → t ++ x = u ++ y → t = u ∧ x = y
  | [], [], _, _, _, _, _, _, h => ⟨rfl, h⟩
  | [], c :: u, _, _, _, hu, hx, _, h => by
    have := hx c (u ++ _) h
    rw [hu c List.mem_cons_self] at this
    cases this
  | c :: t, [], _, _, ht, _, _, hy, h => by
    have := hy c (t ++ _) h.symm
    rw [ht c List.mem_cons_self] at this
    cases this
  | c :: t, d :: u, _, _, ht, hu, hx, hy, h => by
    obtain ⟨rfl, hrest⟩ := List.cons.inj h
    obtain ⟨rfl, hxy⟩ := token_append_inj (fun c hc => ht c (List.mem_cons_of_mem _ hc))
      (fun c hc => hu c (List.mem_cons_of_mem _ hc)) hx hy hrest
    exact ⟨rfl, hxy⟩

/-- The first character of a value that is no token. -/
def opening : Json → Char
  | str _ => '"'
  | arr _ => '['
  | _ => '{'

/-- A value that is no token starts with its opening character. -/
theorem print_of_no_token {j : Json} (h : token j = none) :
    ∃ rest, print j = opening j :: rest := by
  cases j with
  | null => cases h
  | bool b => cases b <;> cases h
  | int n => cases h
  | float x => cases h
  | str s => exact ⟨_, rfl⟩
  | arr items => cases items <;> exact ⟨_, rfl⟩
  | obj fields => rcases fields with _ | ⟨⟨k, v⟩, fs⟩ <;> exact ⟨_, rfl⟩

/-- The opening character of a value is a delimiter and closes nothing. -/
theorem opening_delimiter (j : Json) :
    isDelimiter (opening j) = true ∧ opening j ≠ ']' ∧ opening j ≠ '}' := by
  cases j <;> simp [opening, isDelimiter]

/-- No value starts like the end of an array or an object. -/
theorem print_head_ne {j : Json} {c : Char} (hc : c = ']' ∨ c = '}') (x y : List Char) :
    print j ++ x ≠ c :: y := by
  intro h
  cases ht : token j with
  | some t =>
    obtain ⟨hne, hchars⟩ := token_chars ht
    rw [print_of_token ht] at h
    cases t with
    | nil => exact hne rfl
    | cons d t =>
      have hd := hchars d List.mem_cons_self
      rw [(List.cons.inj h).1] at hd
      rcases hc with rfl | rfl <;> exact absurd hd (by decide)
  | none =>
    obtain ⟨rest, hrest⟩ := print_of_no_token ht
    rw [hrest] at h
    have hopen := (List.cons.inj h).1
    rcases hc with rfl | rfl
    · exact (opening_delimiter j).2.1 hopen
    · exact (opening_delimiter j).2.2 hopen

/-- A token and a bracketed value have different texts. -/
theorem token_ne_opening {j k : Json} {t : List Char} (hj : token j = some t)
    (hk : token k = none) (x y : List Char) : print j ++ x ≠ print k ++ y := by
  intro h
  obtain ⟨hne, hchars⟩ := token_chars hj
  obtain ⟨rest, hrest⟩ := print_of_no_token hk
  rw [print_of_token hj, hrest] at h
  cases t with
  | nil => exact hne rfl
  | cons d t =>
    have hd := hchars d List.mem_cons_self
    rw [(List.cons.inj h).1, (opening_delimiter k).1] at hd
    cases hd

/-- Values of different kinds have different texts; equal ones of a scalar kind are equal. -/
theorem token_inj {j k : Json} {x y : List Char} (hx : Stop x) (hy : Stop y) {t : List Char}
    (hj : token j = some t) (h : print j ++ x = print k ++ y) : j = k ∧ x = y := by
  cases hk : token k with
  | none => exact absurd h (token_ne_opening hj hk x y)
  | some u =>
    rw [print_of_token hj, print_of_token hk] at h
    obtain ⟨rfl, hxy⟩ := token_append_inj (token_chars hj).2 (token_chars hk).2 hx hy h
    exact ⟨Option.some.inj ((readToken_token hj).symm.trans (readToken_token hk)), hxy⟩

/-- A text that begins like a bracketed value is one of the same kind. -/
theorem opening_eq {j k : Json} {x y : List Char} (hj : token j = none)
    (h : print j ++ x = print k ++ y) : token k = none ∧ opening k = opening j := by
  cases hk : token k with
  | some t => exact absurd h.symm (token_ne_opening hk hj y x)
  | none =>
    obtain ⟨rest, hrest⟩ := print_of_no_token hj
    obtain ⟨rest', hrest'⟩ := print_of_no_token hk
    rw [hrest, hrest'] at h
    exact ⟨rfl, (List.cons.inj h).1.symm⟩

/-- The opening character tells the texts, the lists and the objects apart. -/
theorem opening_cases {k : Json} (hk : token k = none) :
    (∃ s, k = str s ∧ opening k = '"') ∨ (∃ items, k = arr items ∧ opening k = '[') ∨
      ∃ fields, k = obj fields ∧ opening k = '{' := by
  cases k with
  | null => cases hk
  | bool b => cases b <;> cases hk
  | int n => cases hk
  | float f => cases hk
  | str s => exact Or.inl ⟨s, rfl, rfl⟩
  | arr items => exact Or.inr (Or.inl ⟨items, rfl, rfl⟩)
  | obj fields => exact Or.inr (Or.inr ⟨fields, rfl, rfl⟩)

section Append

variable (k : String) (v w : Json) (ws : List Json) (fs : List (String × Json)) (x : List Char)

/-- A list with items, followed by a text: the first item stands right behind the bracket. -/
theorem print_arr_append :
    print (arr (w :: ws)) ++ x = '[' :: (print w ++ (printItems ws ++ x)) := by
  simp [print]

/-- Every other item stands behind a comma. -/
theorem printItems_append :
    printItems (w :: ws) ++ x = ',' :: (print w ++ (printItems ws ++ x)) := by
  simp [printItems]

/-- An object with fields, followed by a text: the first field stands right behind the brace. -/
theorem print_obj_append : print (obj ((k, v) :: fs)) ++ x =
    '{' :: (quote k ++ ':' :: (print v ++ (printFields fs ++ x))) := by
  simp [print]

/-- Every other field stands behind a comma. -/
theorem printFields_append : printFields ((k, v) :: fs) ++ x =
    ',' :: (quote k ++ ':' :: (print v ++ (printFields fs ++ x))) := by
  simp [printFields]

end Append

mutual

/-- **Prefix code.**  A value and what follows it are read off the text. -/
theorem print_append_inj : ∀ (j k : Json) {x y : List Char}, Stop x → Stop y →
    print j ++ x = print k ++ y → j = k ∧ x = y
  | null, k, _, _, hx, hy, h => token_inj hx hy rfl h
  | bool true, k, _, _, hx, hy, h => token_inj hx hy rfl h
  | bool false, k, _, _, hx, hy, h => token_inj hx hy rfl h
  | int n, k, _, _, hx, hy, h => token_inj hx hy rfl h
  | float f, k, _, _, hx, hy, h => token_inj hx hy rfl h
  -- the first character tells texts, arrays, objects and tokens apart
  | str s, k, x, y, hx, hy, h => by
    obtain ⟨hk, hopen⟩ := opening_eq rfl h
    rcases opening_cases hk with ⟨t, rfl, -⟩ | ⟨_, rfl, -⟩ | ⟨_, rfl, -⟩
    · obtain ⟨rfl, hxy⟩ := quote_append_inj h
      exact ⟨rfl, hxy⟩
    · exact absurd hopen (by simp [opening])
    · exact absurd hopen (by simp [opening])
  | arr items, k, x, y, hx, hy, h => by
    obtain ⟨hk, hopen⟩ := opening_eq rfl h
    rcases opening_cases hk with ⟨t, rfl, -⟩ | ⟨items', rfl, -⟩ | ⟨_, rfl, -⟩
    · exact absurd hopen (by simp [opening])
    · rcases items with _ | ⟨w, ws⟩ <;> rcases items' with _ | ⟨z, zs⟩
      · exact ⟨rfl, by simpa [print] using h⟩
      · rw [print_arr_append] at h
        exact absurd (List.cons.inj h).2.symm (print_head_ne (Or.inl rfl) _ _)
      · rw [print_arr_append] at h
        exact absurd (List.cons.inj h).2 (print_head_ne (Or.inl rfl) _ _)
      · rw [print_arr_append, print_arr_append] at h
        obtain ⟨rfl, hrest⟩ := print_append_inj w z (stop_printItems ws x)
          (stop_printItems zs y) (List.cons.inj h).2
        obtain ⟨rfl, hxy⟩ := printItems_append_inj ws zs hrest
        exact ⟨rfl, hxy⟩
    · exact absurd hopen (by simp [opening])
  | obj fields, k, x, y, hx, hy, h => by
    obtain ⟨hk, hopen⟩ := opening_eq rfl h
    rcases opening_cases hk with ⟨t, rfl, -⟩ | ⟨_, rfl, -⟩ | ⟨fields', rfl, -⟩
    · exact absurd hopen (by simp [opening])
    · exact absurd hopen (by simp [opening])
    · rcases fields with _ | ⟨⟨k₁, v₁⟩, fs⟩ <;> rcases fields' with _ | ⟨⟨k₂, v₂⟩, gs⟩
      · exact ⟨rfl, by simpa [print] using h⟩
      · simp [print, quote] at h
      · simp [print, quote] at h
      · rw [print_obj_append, print_obj_append] at h
        obtain ⟨rfl, hcolon⟩ := quote_append_inj (List.cons.inj h).2
        obtain ⟨rfl, hrest⟩ := print_append_inj v₁ v₂ (stop_printFields fs x)
          (stop_printFields gs y) (List.cons.inj hcolon).2
        obtain ⟨rfl, hxy⟩ := printFields_append_inj fs gs hrest
        exact ⟨rfl, hxy⟩

/-- Items are read off in one way, one after the other, by the lemma for their values. -/
theorem printItems_append_inj : ∀ (ws zs : List Json) {x y : List Char},
    printItems ws ++ x = printItems zs ++ y → ws = zs ∧ x = y
  | [], [], x, y, h => ⟨rfl, by simpa [printItems] using h⟩
  | [], z :: zs, x, y, h => by simp [printItems] at h
  | w :: ws, [], x, y, h => by simp [printItems] at h
  | w :: ws, z :: zs, x, y, h => by
    rw [printItems_append, printItems_append] at h
    obtain ⟨rfl, hrest⟩ := print_append_inj w z (stop_printItems ws x) (stop_printItems zs y)
      (List.cons.inj h).2
    obtain ⟨rfl, hxy⟩ := printItems_append_inj ws zs hrest
    exact ⟨rfl, hxy⟩

/-- Fields are read off in one way, one after the other: first the key, then the value. -/
theorem printFields_append_inj : ∀ (fs gs : List (String × Json)) {x y : List Char},
    printFields fs ++ x = printFields gs ++ y → fs = gs ∧ x = y
  | [], [], x, y, h => ⟨rfl, by simpa [printFields] using h⟩
  | [], (k, v) :: gs, x, y, h => by simp [printFields] at h
  | (k, v) :: fs, [], x, y, h => by simp [printFields] at h
  | (k₁, v₁) :: fs, (k₂, v₂) :: gs, x, y, h => by
    rw [printFields_append, printFields_append] at h
    obtain ⟨rfl, hcolon⟩ := quote_append_inj (List.cons.inj h).2
    obtain ⟨rfl, hrest⟩ := print_append_inj v₁ v₂ (stop_printFields fs x)
      (stop_printFields gs y) (List.cons.inj hcolon).2
    obtain ⟨rfl, hxy⟩ := printFields_append_inj fs gs hrest
    exact ⟨rfl, hxy⟩

end

/-- **Printing is injective**: a value is read off its text in one way, and nothing follows it. -/
theorem print_injective {j k : Json} (h : print j = print k) : j = k :=
  (print_append_inj j k stop_nil stop_nil (by rw [List.append_nil, List.append_nil, h])).1

/-- **Canonical texts.**  Two values have the same canonical text exactly if they differ by the
    order of fields and the sign of zeros only. -/
theorem canonicalText_inj {j k : Json} : canonicalText j = canonicalText k ↔ canon j = canon k := by
  constructor
  · intro h
    exact print_injective (String.ofList_inj.mp h)
  · intro h
    rw [canonicalText, canonicalText, h]

/-! ## Reading an object back -/

/-- Sorting moves fields and changes none. -/
theorem sortFields_perm (fields : List (String × Json)) : (sortFields fields).Perm fields :=
  List.perm_insertionSort _ _

/-- The fields of the canonical form are those of the value, made canonical one by one. -/
theorem canonFields_eq_map (fields : List (String × Json)) :
    canonFields fields = fields.map fun f => (f.1, canon f.2) := by
  induction fields with
  | nil => rfl
  | cons f fs ih =>
    obtain ⟨k, v⟩ := f
    rw [canonFields, ih]
    rfl

/-- The canonical form has the keys of the value, in the same order. -/
theorem keys_canonFields (fields : List (String × Json)) :
    (canonFields fields).map Prod.fst = fields.map Prod.fst := by
  rw [canonFields_eq_map, List.map_map]
  rfl

/-- The values of an object can be read back from its canonical form, key by key. -/
theorem canon_obj_field {fs gs : List (String × Json)} (hg : (gs.map Prod.fst).Nodup)
    (h : canon (obj fs) = canon (obj gs)) {k : String} {v w : Json} (hv : (k, v) ∈ fs)
    (hw : (k, w) ∈ gs) : canon v = canon w := by
  have hsort : sortFields (canonFields fs) = sortFields (canonFields gs) := by
    simpa only [canon, obj.injEq] using h
  have hperm : (canonFields fs).Perm (canonFields gs) :=
    (sortFields_perm _).symm.trans (hsort ▸ sortFields_perm _)
  have hmem : (k, canon v) ∈ canonFields gs := by
    refine hperm.mem_iff.mp ?_
    rw [canonFields_eq_map]
    exact List.mem_map_of_mem (f := fun f : String × Json => (f.1, canon f.2)) hv
  rw [canonFields_eq_map] at hmem
  obtain ⟨⟨k', u⟩, hu, he⟩ := List.mem_map.mp hmem
  obtain ⟨rfl, huv⟩ := Prod.mk.inj he
  obtain ⟨_, rfl⟩ := Prod.mk.inj (List.inj_on_of_nodup_map hg hu hw rfl)
  exact huv.symm

/-- Objects with one canonical text have the same keys. -/
theorem mem_keys_of_canonicalText_eq {fs gs : List (String × Json)}
    (h : canonicalText (obj fs) = canonicalText (obj gs)) {k : String}
    (hk : k ∈ fs.map Prod.fst) : k ∈ gs.map Prod.fst := by
  have hsort : sortFields (canonFields fs) = sortFields (canonFields gs) := by
    simpa only [canon, obj.injEq] using canonicalText_inj.mp h
  have hperm : (canonFields fs).Perm (canonFields gs) :=
    (sortFields_perm _).symm.trans (hsort ▸ sortFields_perm _)
  have hmem := ((hperm.map Prod.fst).mem_iff (a := k)).mp (by rwa [keys_canonFields])
  rwa [keys_canonFields] at hmem

/-- With distinct keys there is one sorted order. -/
theorem sortFields_eq_of_perm {fs gs : List (String × Json)} (hf : (fs.map Prod.fst).Nodup)
    (h : fs.Perm gs) : sortFields fs = sortFields gs := by
  have hsorted : ∀ l, (sortFields l).Pairwise fun a b : String × Json => a.1 ≤ b.1 :=
    fun l => List.pairwise_insertionSort _ l
  have hkeys : ((sortFields fs).map Prod.fst).Nodup :=
    ((sortFields_perm fs).map Prod.fst).nodup_iff.mpr hf
  exact eq_of_perm_of_sorted hkeys
    ((sortFields_perm fs).trans (h.trans (sortFields_perm gs).symm)) (hsorted _) (hsorted _)

/-- The canonical form does not see the order of keys. -/
theorem canon_obj_congr {fs gs : List (String × Json)} (hf : (fs.map Prod.fst).Nodup)
    (hg : (gs.map Prod.fst).Nodup) (h : ∀ f, f ∈ fs ↔ f ∈ gs) : canon (obj fs) = canon (obj gs) := by
  have hperm : (canonFields fs).Perm (canonFields gs) := by
    rw [canonFields_eq_map, canonFields_eq_map]
    exact ((List.perm_ext_iff_of_nodup hf.of_map hg.of_map).mpr h).map _
  simp only [canon, obj.injEq]
  exact sortFields_eq_of_perm (by rwa [keys_canonFields]) hperm

/-! ## How long a printed value is -/

/-- No character is escaped to nothing. -/
theorem length_escapeChar_pos (c : Char) : 1 ≤ (escapeChar c).length := by
  unfold escapeChar
  split
  · simp
  · split
    · simp
    · unfold utf16
      split <;> simp [escapeUnit]

/-- A quoted text is longer than the text. -/
theorem length_le_quote (s : String) : s.length ≤ (quote s).length := by
  have hchars : ∀ cs : List Char, cs.length ≤ (cs.flatMap escapeChar).length := by
    intro cs
    induction cs with
    | nil => simp
    | cons c cs ih =>
      have hc := length_escapeChar_pos c
      rw [List.flatMap_cons, List.length_append, List.length_cons]
      omega
  have h := hchars s.toList
  simp only [quote, List.length_cons, List.length_append, List.length_nil,
    String.length_toList] at h ⊢
  omega

/-- An object is printed with each of its values. -/
theorem length_le_print_obj {k : String} {v : Json} {fields : List (String × Json)}
    (h : (k, v) ∈ fields) : (print v).length ≤ (print (obj fields)).length := by
  -- behind the first field, by induction
  have hrest : ∀ fs : List (String × Json), (k, v) ∈ fs →
      (print v).length ≤ (printFields fs).length := by
    intro fs hfs
    induction fs with
    | nil => cases hfs
    | cons f fs ih =>
      obtain ⟨k', v'⟩ := f
      rw [printFields]
      simp only [List.length_cons, List.length_append]
      rcases List.mem_cons.mp hfs with heq | hfs
      · obtain ⟨rfl, rfl⟩ := Prod.mk.inj heq
        omega
      · have := ih hfs
        omega
  cases fields with
  | nil => cases h
  | cons f fs =>
    obtain ⟨k', v'⟩ := f
    rw [print]
    simp only [List.length_cons, List.length_append]
    rcases List.mem_cons.mp h with heq | hfs
    · obtain ⟨rfl, rfl⟩ := Prod.mk.inj heq
      omega
    · have := hrest fs hfs
      omega

/-- A canonical text is as long as each text among its object's values. -/
theorem length_le_canonicalText_obj {k text : String} {fields : List (String × Json)}
    (h : (k, str text) ∈ fields) : text.length ≤ (canonicalText (obj fields)).length := by
  have hcanon : (k, str text) ∈ sortFields (canonFields fields) := by
    refine (sortFields_perm _).mem_iff.mpr ?_
    rw [canonFields_eq_map]
    exact List.mem_map.mpr ⟨(k, str text), h, rfl⟩
  have hprinted := length_le_print_obj hcanon
  rw [print] at hprinted
  have hquote := length_le_quote text
  rw [canonicalText, canon, String.length_ofList]
  omega

end AEControl.Json
