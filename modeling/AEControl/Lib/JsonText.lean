/-
  `json.loads` of a text with an `object_pairs_hook`: the scanner, what it accepts, and where it
  stops for a limit of the interpreter.

  A text is a list of code points, and every part of the scanner gives a value and what is left of
  the text.  Three things besides a malformed text stop it: the hook, an integer with more digits
  than `int()` converts, and a value nested deeper than the recursion limit.

  Every part takes something off the text (`scanOnce_shrinks`), so no loop runs out of fuel, and a
  limit is met exactly at a value the scanner comes to (`loads_limit`).
-/
import Mathlib.Data.List.TakeWhile
import AEControl.Lib.Except
import AEControl.Lib.Unicode

namespace AEControl.JsonText

open Unicode

/-! ## The scanner -/

/-- A value as `json.loads` builds it; a number by its literal. -/
inductive Value where
  | null
  | bool (b : Bool)
  | int (literal : List ℕ)
  | float (literal : List ℕ)
  | str (text : List ℕ)
  | arr (items : List Value)
  | obj (fields : List (List ℕ × Value))

/-- What the scanner raises: `JSONDecodeError`, the `ValueError` of `int()`, `RecursionError`, or
    what the hook raises. -/
inductive ScanError (ε : Type*) where
  | decode
  | digits
  | recursion
  | hook (e : ε)

/-- The interpreter's limits and the hook. -/
structure Settings (ε : Type*) where
  /-- How deep containers may be nested. -/
  recursionLimit : ℕ
  /-- `sys.get_int_max_str_digits()`. -/
  digitLimit : ℕ
  /-- `object_pairs_hook`, called at the end of every object. -/
  pairsHook : List (List ℕ × Value) → Except ε Value
  recursionLimit_pos : 0 < recursionLimit

variable {ε : Type*} {β : Type}

/-- A part of the scanner. -/
abbrev Scan (ε : Type*) (β : Type) := List ℕ → Except (ScanError ε) (β × List ℕ)

/-- `"`, `\`, `,` and `:`. -/
def quote : ℕ := 34
def backslash : ℕ := 92
def comma : ℕ := 44
def colon : ℕ := 58

/-- `[`, `]`, `{` and `}`. -/
def openBracket : ℕ := 91
def closeBracket : ℕ := 93
def openBrace : ℕ := 123
def closeBrace : ℕ := 125

/-- White space between the tokens. -/
def isSpace (c : ℕ) : Bool := c = 32 || c = 9 || c = 10 || c = 13

def skipSpace (text : List ℕ) : List ℕ := text.dropWhile isSpace

/-- The character `c`. -/
def expect (c : ℕ) : List ℕ → Except (ScanError ε) (List ℕ)
  | [] => .error .decode
  | d :: rest => if d = c then .ok rest else .error .decode

/-- The value of a hexadecimal digit. -/
def hexDigit (c : ℕ) : Option ℕ :=
  if 48 ≤ c ∧ c ≤ 57 then some (c - 48)
  else if 97 ≤ c ∧ c ≤ 102 then some (c - 87)
  else if 65 ≤ c ∧ c ≤ 70 then some (c - 55)
  else none

/-- The unit of four hexadecimal digits. -/
def hexUnit (a b c d : ℕ) : Option ℕ :=
  match hexDigit a, hexDigit b, hexDigit c, hexDigit d with
  | some w, some x, some y, some z => some (((w * 16 + x) * 16 + y) * 16 + z)
  | _, _, _, _ => none

/-- The character an escape stands for. -/
def escape (c : ℕ) : Option ℕ :=
  if c = 34 ∨ c = 92 ∨ c = 47 then some c
  else if c = 98 then some 8
  else if c = 102 then some 12
  else if c = 110 then some 10
  else if c = 114 then some 13
  else if c = 116 then some 9
  else none

/-- A string behind its opening quote: its pieces and what is left behind the closing one. -/
def scanPieces : List ℕ → Option (List Piece × List ℕ)
  | [] => none
  | c :: rest =>
    if c = quote then some ([], rest)
    else if c = backslash then
      match rest with
      | [] => none
      | e :: rest =>
        if e = 117 then
          match rest with
          | h1 :: h2 :: h3 :: h4 :: rest =>
            match hexUnit h1 h2 h3 h4 with
            | none => none
            | some u => (scanPieces rest).map fun (p, rest) => (.unit u :: p, rest)
          | _ => none
        else
          match escape e with
          | none => none
          | some x => (scanPieces rest).map fun (p, rest) => (.char x :: p, rest)
    else if c < 32 then none
    else (scanPieces rest).map fun (p, rest) => (.char c :: p, rest)

/-- `scanstring`: the text of a string behind its opening quote. -/
def scanString : Scan ε (List ℕ) := fun text =>
  match scanPieces text with
  | none => .error .decode
  | some (pieces, rest) => .ok (joinUnits pieces, rest)

def isDigit (c : ℕ) : Bool := 48 ≤ c && c ≤ 57

/-- The parts of a number, each with what is left: a sign, the integer part, a fraction and an
    exponent. -/
def scanSign (signs : List ℕ) : List ℕ → List ℕ × List ℕ
  | [] => ([], [])
  | c :: rest => if c ∈ signs then ([c], rest) else ([], c :: rest)

def scanInteger : List ℕ → Option (List ℕ × List ℕ)
  | [] => none
  | c :: rest =>
    if c = 48 then some ([c], rest)
    else if isDigit c then some (c :: rest.takeWhile isDigit, rest.dropWhile isDigit)
    else none

def scanFraction : List ℕ → List ℕ × List ℕ
  | [] => ([], [])
  | c :: rest =>
    if c = 46 ∧ rest.takeWhile isDigit ≠ [] then
      (c :: rest.takeWhile isDigit, rest.dropWhile isDigit)
    else ([], c :: rest)

def scanExponent : List ℕ → List ℕ × List ℕ
  | [] => ([], [])
  | c :: rest =>
    let (sign, digits) := scanSign [43, 45] rest
    if (c = 101 ∨ c = 69) ∧ digits.takeWhile isDigit ≠ [] then
      (c :: sign ++ digits.takeWhile isDigit, digits.dropWhile isDigit)
    else ([], c :: rest)

/-- `_match_number`: a literal with a fraction or an exponent is a float, any other an integer, of
    so many digits at most. -/
def scanNumber (s : Settings ε) : Scan ε Value := fun text =>
  let (sign, rest) := scanSign [45] text
  match scanInteger rest with
  | none => .error .decode
  | some (integer, rest) =>
    let (fraction, rest) := scanFraction rest
    let (exponent, rest) := scanExponent rest
    if fraction = [] ∧ exponent = [] then
      if s.digitLimit < integer.length then .error .digits
      else .ok (.int (sign ++ integer), rest)
    else .ok (.float (sign ++ integer ++ fraction ++ exponent), rest)

/-- `null`, `true`, `false`, `NaN`, `Infinity` and `-Infinity`. -/
def keywords : List (List ℕ × Value) :=
  [([110, 117, 108, 108], .null), ([116, 114, 117, 101], .bool true),
    ([102, 97, 108, 115, 101], .bool false), ([78, 97, 78], .float [78, 97, 78]),
    ([73, 110, 102, 105, 110, 105, 116, 121], .float [73, 110, 102, 105, 110, 105, 116, 121]),
    ([45, 73, 110, 102, 105, 110, 105, 116, 121],
      .float [45, 73, 110, 102, 105, 110, 105, 116, 121])]

/-- A keyword at the front of the text. -/
def scanKeyword (text : List ℕ) : Option (Value × List ℕ) :=
  keywords.findSome? fun (word, v) =>
    if word.isPrefixOf text then some (v, text.drop word.length) else none

/-- A value that is no container. -/
def scanLeaf (s : Settings ε) : Scan ε Value
  | [] => .error .decode
  | c :: rest =>
    if c = quote then (scanString rest).map fun (t, rest) => (.str t, rest)
    else
      match scanKeyword (c :: rest) with
      | some found => .ok found
      | none => scanNumber s (c :: rest)

/-- Items with commas between them up to the closing character.  Every turn takes a character off
    the text: with its length for `fuel`, a text that is used up has no closing character. -/
def separated (item : Scan ε β) (close : ℕ) : ℕ → Scan ε (List β)
  | 0, _ => .error .decode
  | fuel + 1, text => do
    let (x, rest) ← item text
    match skipSpace rest with
    | [] => .error .decode
    | d :: rest =>
      if d = close then return ([x], rest)
      else if d = comma then
        let (xs, rest) ← separated item close fuel (skipSpace rest)
        return (x :: xs, rest)
      else .error .decode

/-- The items of a container behind its opening character. -/
def container (item : Scan ε β) (close : ℕ) : Scan ε (List β) := fun text =>
  match skipSpace text with
  | [] => .error .decode
  | d :: rest =>
    if d = close then .ok ([], rest) else separated item close (d :: rest).length (d :: rest)

/-- A field's name and the colon: what is left is where the value starts. -/
def scanName : Scan ε (List ℕ) := fun text => do
  let rest ← expect quote text
  let (name, rest) ← scanString rest
  let rest ← expect colon (skipSpace rest)
  return (name, skipSpace rest)

/-- A field of an object. -/
def member (value : Scan ε β) : Scan ε (List ℕ × β) := fun text => do
  let (name, rest) ← scanName text
  let (v, rest) ← value rest
  return ((name, v), rest)

/-- `scan_once`: the value at the front of the text, with so much room for nesting. -/
def scanOnce (s : Settings ε) : ℕ → Scan ε Value
  | _, [] => .error .decode
  | 0, c :: rest =>
    if c = openBrace ∨ c = openBracket then .error .recursion else scanLeaf s (c :: rest)
  | depth + 1, c :: rest =>
    if c = openBrace then do
      let (fields, rest) ← container (member (scanOnce s depth)) closeBrace rest
      let v ← (s.pairsHook fields).mapError .hook
      return (v, rest)
    else if c = openBracket then
      (container (scanOnce s depth) closeBracket rest).map fun (items, rest) => (.arr items, rest)
    else scanLeaf s (c :: rest)

/-- `json.loads(text, object_pairs_hook=…)`. -/
def loads (s : Settings ε) (text : List ℕ) : Except (ScanError ε) Value := do
  let (v, rest) ← scanOnce s s.recursionLimit (skipSpace text)
  if skipSpace rest = [] then return v else .error .decode

/-! ## White space and strings -/

/-- `r` is what is left of `s` behind white space. -/
def Ws (s r : List ℕ) : Prop := ∃ w, (∀ c ∈ w, isSpace c = true) ∧ s = w ++ r

/-- What is skipped is white space. -/
theorem ws_skipSpace (s : List ℕ) : Ws s (skipSpace s) :=
  ⟨s.takeWhile isSpace, fun _ => List.mem_takeWhile_imp, List.takeWhile_append_dropWhile.symm⟩

/-- What is skipped and the rest make up the text. -/
theorem ws_of_skipSpace {s r : List ℕ} (h : skipSpace s = r) : Ws s r := h ▸ ws_skipSpace s

/-- Nothing is skipped before another character. -/
theorem skipSpace_cons {c : ℕ} (hc : isSpace c = false) (r : List ℕ) :
    skipSpace (c :: r) = c :: r := by
  simp [skipSpace, hc]

/-- All the white space in front of another character is skipped. -/
theorem skipSpace_of_ws {s r : List ℕ} (h : Ws s r) (hr : skipSpace r = r) : skipSpace s = r := by
  obtain ⟨w, hw, rfl⟩ := h
  rw [skipSpace, List.dropWhile_append_of_pos hw]
  exact hr

/-- Behind the white space there is no more than the text. -/
theorem length_skipSpace_le (s : List ℕ) : (skipSpace s).length ≤ s.length :=
  (List.dropWhile_sublist isSpace).length_le

/-- A string behind its opening quote: the text, its pieces, and what is left behind the closing
    quote. -/
inductive StringBody : List ℕ → List Piece → List ℕ → Prop
  | close {r : List ℕ} : StringBody (quote :: r) [] r
  | char {c : ℕ} {s r : List ℕ} {p : List Piece} : 32 ≤ c → c ≠ quote → c ≠ backslash →
      StringBody s p r → StringBody (c :: s) (.char c :: p) r
  | escape {e x : ℕ} {s r : List ℕ} {p : List Piece} : escape e = some x →
      StringBody s p r → StringBody (backslash :: e :: s) (.char x :: p) r
  | unit {h1 h2 h3 h4 u : ℕ} {s r : List ℕ} {p : List Piece} : hexUnit h1 h2 h3 h4 = some u →
      StringBody s p r → StringBody (backslash :: 117 :: h1 :: h2 :: h3 :: h4 :: s) (.unit u :: p) r

/-- The scanner reads the body of every string that the grammar has. -/
theorem scanPieces_of_body {s r : List ℕ} {p : List Piece} (h : StringBody s p r) :
    scanPieces s = some (p, r) := by
  induction h with
  | close =>
    rw [scanPieces.eq_def]
    exact if_pos rfl
  | char hc hquote hslash _ ih =>
    rw [scanPieces.eq_def]
    simp only [if_neg hquote, if_neg hslash, if_neg (Nat.not_lt.mpr hc), ih, Option.map_some]
  | @escape e x _ _ _ hx _ ih =>
    have he : e ≠ 117 := by
      rintro rfl
      cases hx
    have hslash : backslash ≠ quote := by decide
    rw [scanPieces.eq_def]
    simp only [if_neg hslash, if_true, if_neg he, hx, ih, Option.map_some]
  | unit hu _ ih =>
    have hslash : backslash ≠ quote := by decide
    rw [scanPieces.eq_def]
    simp only [if_neg hslash, if_true, hu, ih, Option.map_some]

/-- The body the scanner reads is one that the grammar has: by the recursion of the scanner, a case
    for each kind of piece. -/
theorem body_of_scanPieces {s r : List ℕ} {p : List Piece} (h : scanPieces s = some (p, r)) :
    StringBody s p r := by
  fun_induction scanPieces s generalizing p r with
  | case2 =>
    cases h
    exact .close
  | case5 _ _ _ _ _ _ hu _ ih =>
    obtain ⟨⟨p', r'⟩, hrest, heq⟩ := Option.map_eq_some_iff.mp h
    cases heq
    exact .unit hu (ih hrest)
  | case8 _ _ _ _ hx _ ih =>
    obtain ⟨⟨p', r'⟩, hrest, heq⟩ := Option.map_eq_some_iff.mp h
    cases heq
    exact .escape hx (ih hrest)
  | case10 _ _ hquote hslash hc ih =>
    obtain ⟨⟨p', r'⟩, hrest, heq⟩ := Option.map_eq_some_iff.mp h
    cases heq
    exact .char (Nat.not_lt.mp hc) hquote hslash (ih hrest)
  | _ => cases h

/-- A string behind its opening quote, and its text. -/
def StringText (s t r : List ℕ) : Prop := ∃ p, StringBody s p r ∧ t = joinUnits p

/-- **The scanner reads strings.** -/
theorem scanString_ok {s t r : List ℕ} :
    scanString (ε := ε) s = .ok (t, r) ↔ StringText s t r := by
  unfold scanString
  constructor
  · intro h
    split at h
    · cases h
    · rename_i p r' hp
      cases h
      exact ⟨p, body_of_scanPieces hp, rfl⟩
  · rintro ⟨p, hbody, rfl⟩
    rw [scanPieces_of_body hbody]

/-- The closing quote at least is consumed. -/
theorem StringBody.length_lt {s r : List ℕ} {p : List Piece} (h : StringBody s p r) :
    r.length < s.length := by
  induction h with
  | close => exact Nat.lt_succ_self _
  | char _ _ _ _ ih | escape _ _ ih | unit _ _ ih =>
    simp only [List.length_cons]
    omega

/-! ## Every part of the scanner takes something off the text -/

/-- What is left is shorter. -/
def Shrinks (scan : Scan ε β) : Prop :=
  ∀ {t : List ℕ} {x : β} {r : List ℕ}, scan t = .ok (x, r) → r.length < t.length

/-- An expected character is found at the front, behind white space. -/
theorem expect_ok {c : ℕ} {t r : List ℕ} : expect (ε := ε) c t = .ok r ↔ t = c :: r := by
  cases t with
  | nil => simp [expect]
  | cons d t =>
    simp only [expect]
    split_ifs with h <;> simp [h]

/-- A string consumes something, for it starts with a quote. -/
theorem scanString_shrinks : Shrinks (scanString (ε := ε)) := by
  intro t x r h
  obtain ⟨p, hbody, -⟩ := scanString_ok.mp h
  exact hbody.length_lt

/-- **A name with its colon**: what is left starts with the value. -/
theorem scanName_ok {s n r : List ℕ} : scanName (ε := ε) s = .ok (n, r) ↔
    ∃ a b c, s = quote :: a ∧ StringText a n b ∧ skipSpace b = colon :: c ∧ r = skipSpace c := by
  constructor
  · intro h
    obtain ⟨a, ha, h⟩ := Raising.bind_ok h
    obtain ⟨⟨n', b⟩, hb, h⟩ := Raising.bind_ok h
    obtain ⟨c, hc, h⟩ := Raising.bind_ok h
    cases h
    exact ⟨a, b, c, expect_ok.mp ha, scanString_ok.mp hb, expect_ok.mp hc, rfl⟩
  · rintro ⟨a, b, c, rfl, hb, hc, rfl⟩
    have hname := scanString_ok (ε := ε).mpr hb
    have hcolon := expect_ok (ε := ε).mpr hc
    have hquote := expect_ok (ε := ε) (c := quote).mpr (Eq.refl (quote :: a))
    simp only [scanName, hquote, hname, hcolon, bind, Except.bind, pure, Except.pure]

/-- A name with its colon consumes something. -/
theorem scanName_shrinks : Shrinks (scanName (ε := ε)) := by
  intro t x r h
  obtain ⟨a, b, c, rfl, ⟨p, hbody, -⟩, hc, rfl⟩ := scanName_ok.mp h
  have hb := hbody.length_lt
  have hcolon := length_skipSpace_le b
  have hrest := length_skipSpace_le c
  rw [hc, List.length_cons] at hcolon
  rw [List.length_cons]
  omega

/-- A member is read exactly if its name is, and its value behind the name. -/
theorem member_ok {value : Scan ε β} {s n r : List ℕ} {v : β} :
    member value s = .ok ((n, v), r) ↔
      ∃ t, scanName (ε := ε) s = .ok (n, t) ∧ value t = .ok (v, r) := by
  constructor
  · intro h
    obtain ⟨⟨n', t⟩, ht, h⟩ := Raising.bind_ok h
    obtain ⟨⟨v', r'⟩, hv, h⟩ := Raising.bind_ok h
    cases h
    exact ⟨t, ht, hv⟩
  · rintro ⟨t, ht, hv⟩
    simp only [member, ht, hv, bind, Except.bind, pure, Except.pure]

/-- A member consumes something, by its name. -/
theorem member_shrinks {value : Scan ε β} (h : Shrinks value) : Shrinks (member value) := by
  rintro s ⟨n, v⟩ r hok
  obtain ⟨t, ht, hv⟩ := member_ok.mp hok
  exact (h hv).trans (scanName_shrinks ht)

/-- One turn of the loop over items. -/
theorem separated_ok {item : Scan ε β} {close fuel : ℕ} {t r : List ℕ} {xs : List β} :
    separated item close (fuel + 1) t = .ok (xs, r) ↔
      ∃ x u, item t = .ok (x, u) ∧
        ((∃ d, skipSpace u = close :: d ∧ xs = [x] ∧ r = d) ∨
          ∃ d ys, skipSpace u = comma :: d ∧ comma ≠ close ∧
            separated item close fuel (skipSpace d) = .ok (ys, r) ∧ xs = x :: ys) := by
  constructor
  · intro h
    obtain ⟨⟨x, u⟩, hx, h⟩ := Raising.bind_ok h
    refine ⟨x, u, hx, ?_⟩
    dsimp only at h
    split at h
    · cases h
    · rename_i d rest hu
      split at h
      · rename_i hd
        cases h
        exact .inl ⟨_, hd ▸ hu, rfl, rfl⟩
      · rename_i hclose
        split at h
        · rename_i hd
          obtain ⟨⟨ys, r'⟩, hys, h⟩ := Raising.bind_ok h
          cases h
          exact .inr ⟨rest, ys, hd ▸ hu, hd ▸ hclose, hys, rfl⟩
        · cases h
  · rintro ⟨x, u, hx, ⟨d, hu, rfl, rfl⟩ | ⟨d, ys, hu, hclose, hys, rfl⟩⟩
    · simp only [separated, hx, hu, bind, Except.bind, pure, Except.pure, if_true]
    · simp only [separated, hx, hu, hys, if_neg hclose, bind, Except.bind, pure, Except.pure,
        if_true]

/-- Items with separators consume something, by the first of them. -/
theorem separated_shrinks {item : Scan ε β} (h : Shrinks item) (close fuel : ℕ) :
    Shrinks (separated item close fuel) := by
  induction fuel with
  | zero => exact fun hok => by cases hok
  | succ fuel ih =>
    intro t xs r hok
    obtain ⟨x, u, hx, hrest⟩ := separated_ok.mp hok
    have hu := h hx
    have hskip := length_skipSpace_le u
    rcases hrest with ⟨d, hd, -, rfl⟩ | ⟨d, ys, hd, -, hys, -⟩
    · rw [hd, List.length_cons] at hskip
      omega
    · have htail := ih hys
      have hd' := length_skipSpace_le d
      rw [hd, List.length_cons] at hskip
      omega

/-- A container is empty, or its items are read up to the closing character. -/
theorem container_ok {item : Scan ε β} {close : ℕ} {t r : List ℕ} {xs : List β} :
    container item close t = .ok (xs, r) ↔
      (skipSpace t = close :: r ∧ xs = []) ∨
        ∃ d u, skipSpace t = d :: u ∧ d ≠ close ∧
          separated item close (d :: u).length (d :: u) = .ok (xs, r) := by
  unfold container
  constructor
  · intro h
    split at h
    · cases h
    · rename_i d u ht
      split at h
      · rename_i hd
        cases h
        exact .inl ⟨hd ▸ ht, rfl⟩
      · rename_i hd
        exact .inr ⟨d, u, ht, hd, h⟩
  · rintro (⟨ht, rfl⟩ | ⟨d, u, ht, hd, h⟩)
    · simp only [ht, if_true]
    · simp only [ht, if_neg hd, h]

/-- A container consumes its closing character at least. -/
theorem container_shrinks {item : Scan ε β} (h : Shrinks item) (close : ℕ) :
    Shrinks (container item close) := by
  intro t xs r hok
  have hskip := length_skipSpace_le t
  rcases container_ok.mp hok with ⟨ht, -⟩ | ⟨d, u, ht, -, hs⟩
  · rw [ht, List.length_cons] at hskip
    omega
  · have := separated_shrinks h close _ hs
    rw [ht] at hskip
    omega

/-- The sign of a number leaves no more than it was given. -/
theorem scanSign_length (signs t : List ℕ) : (scanSign signs t).2.length ≤ t.length := by
  unfold scanSign
  split
  · exact le_rfl
  · split_ifs <;> simp

/-- The digits of the integer leave less than they were given: there is one at least. -/
theorem scanInteger_length {t i r : List ℕ} (h : scanInteger t = some (i, r)) :
    r.length < t.length := by
  unfold scanInteger at h
  split at h
  · cases h
  · rename_i c rest
    have := (List.dropWhile_sublist isDigit (l := rest)).length_le
    split_ifs at h <;> cases h
    · exact Nat.lt_succ_self _
    · exact Nat.lt_succ_of_le this

/-- The fraction leaves no more than it was given. -/
theorem scanFraction_length (t : List ℕ) : (scanFraction t).2.length ≤ t.length := by
  unfold scanFraction
  split
  · exact le_rfl
  · rename_i c rest
    have := (List.dropWhile_sublist isDigit (l := rest)).length_le
    split_ifs
    · exact Nat.le_succ_of_le this
    · exact le_rfl

/-- The exponent leaves no more than it was given. -/
theorem scanExponent_length (t : List ℕ) : (scanExponent t).2.length ≤ t.length := by
  unfold scanExponent
  split
  · exact le_rfl
  · rename_i c rest
    have hsign := scanSign_length [43, 45] rest
    have := (List.dropWhile_sublist isDigit (l := (scanSign [43, 45] rest).2)).length_le
    dsimp only
    split_ifs
    · simp only [List.length_cons]
      omega
    · exact le_rfl

/-- A number consumes something, by its integer. -/
theorem scanNumber_shrinks (s : Settings ε) : Shrinks (scanNumber s) := by
  intro t x r h
  have hsign := scanSign_length [45] t
  unfold scanNumber at h
  dsimp only at h
  split at h
  · cases h
  · rename_i integer rest hinteger
    have hint := scanInteger_length hinteger
    have hfrac := scanFraction_length rest
    have hexp := scanExponent_length (scanFraction rest).2
    split_ifs at h <;> cases h <;> omega

/-- A keyword consumes its letters. -/
theorem scanKeyword_length {t r : List ℕ} {v : Value} (h : scanKeyword t = some (v, r)) :
    r.length < t.length := by
  obtain ⟨⟨word, v'⟩, hmem, h⟩ := List.exists_of_findSome?_eq_some h
  have hword : 0 < word.length := by
    revert hmem
    simp only [keywords, List.mem_cons, Prod.mk.injEq, List.not_mem_nil, or_false]
    rintro (⟨rfl, -⟩ | ⟨rfl, -⟩ | ⟨rfl, -⟩ | ⟨rfl, -⟩ | ⟨rfl, -⟩ | ⟨rfl, -⟩) <;> decide
  dsimp only at h
  split_ifs at h with hprefix
  obtain ⟨rest, rfl⟩ := List.isPrefixOf_iff_prefix.mp hprefix
  cases h
  simp only [List.length_drop, List.length_append]
  omega

/-- A value without parts consumes something, whichever it is. -/
theorem scanLeaf_shrinks (s : Settings ε) : Shrinks (scanLeaf s) := by
  intro t x r h
  cases t with
  | nil => cases h
  | cons c rest =>
    simp only [scanLeaf] at h
    split_ifs at h with hc
    · obtain ⟨⟨u, r'⟩, hu, heq⟩ := Raising.map_ok h
      cases heq
      exact Nat.lt_succ_of_lt (scanString_shrinks hu)
    · split at h
      · rename_i found hfound
        cases h
        exact scanKeyword_length hfound
      · exact scanNumber_shrinks s h

/-- **Every value takes something off the text**, so no loop runs out of fuel. -/
theorem scanOnce_shrinks (s : Settings ε) (depth : ℕ) : Shrinks (scanOnce s depth) := by
  induction depth with
  | zero =>
    intro t x r h
    cases t with
    | nil => cases h
    | cons c rest =>
      simp only [scanOnce] at h
      split_ifs at h
      exact scanLeaf_shrinks s h
  | succ depth ih =>
    intro t x r h
    cases t with
    | nil => cases h
    | cons c rest =>
      simp only [scanOnce] at h
      split_ifs at h
      · obtain ⟨⟨fields, r'⟩, hfields, h⟩ := Raising.bind_ok h
        obtain ⟨v, -, h⟩ := Raising.bind_ok h
        cases h
        exact Nat.lt_succ_of_lt (container_shrinks (member_shrinks ih) _ hfields)
      · obtain ⟨⟨items, r'⟩, hitems, heq⟩ := Raising.map_ok h
        cases heq
        exact Nat.lt_succ_of_lt (container_shrinks ih _ hitems)
      · exact scanLeaf_shrinks s h

/-! ## Where a limit is met -/

/-- The scanner comes to an item: the ones before it are read, a comma behind each. -/
inductive ItemAt (item : Scan ε β) : List ℕ → List ℕ → Prop
  | here {t : List ℕ} : ItemAt item t t
  | next {t u d t' : List ℕ} {x : β} : item t = .ok (x, u) → skipSpace u = comma :: d →
      ItemAt item (skipSpace d) t' → ItemAt item t t'

/-- An item of a container, behind its opening character. -/
def ItemOf (item : Scan ε β) (close : ℕ) (t t' : List ℕ) : Prop :=
  ∃ d u, skipSpace t = d :: u ∧ d ≠ close ∧ ItemAt item (d :: u) t'

/-- The loop raises what an item raises. -/
theorem separated_raises {item : Scan ε β} (h : Shrinks item) {close : ℕ} (hclose : comma ≠ close)
    {e : ScanError ε} (he : e ≠ .decode) {t : List ℕ} {n : ℕ} (hn : t.length ≤ n ∧ 0 < n) :
    separated item close n t = .error e ↔ ∃ t', ItemAt item t t' ∧ item t' = .error e := by
  constructor
  · intro hraise
    induction n generalizing t with
    | zero => omega
    | succ n ih =>
      rcases Raising.bind_error hraise with hitem | ⟨⟨x, u⟩, hx, hraise⟩
      · exact ⟨t, .here, hitem⟩
      -- the item was read, so the loop raises behind a comma
      have hu := h hx
      have hskip := length_skipSpace_le u
      dsimp only at hraise
      split at hraise
      · exact absurd (Except.error.inj hraise).symm he
      · rename_i d rest hsplit
        have hrest := length_skipSpace_le rest
        rw [hsplit, List.length_cons] at hskip
        split_ifs at hraise with hd hcomma
        · cases hraise
        · rcases Raising.bind_error hraise with htail | ⟨_, -, hok⟩
          · obtain ⟨t', hat, hitem⟩ := ih (by omega) htail
            exact ⟨t', .next hx (hcomma ▸ hsplit) hat, hitem⟩
          · cases hok
        · exact absurd (Except.error.inj hraise).symm he
  · rintro ⟨t', hat, hitem⟩
    induction hat generalizing n with
    | here =>
      obtain ⟨m, rfl⟩ : ∃ k, n = k + 1 := ⟨n - 1, by omega⟩
      simp only [separated, hitem, bind, Except.bind]
    | @next t u d t' x hx hsplit _ ih =>
      obtain ⟨m, rfl⟩ : ∃ k, n = k + 1 := ⟨n - 1, by omega⟩
      have hu := h hx
      have hskip := length_skipSpace_le u
      have hrest := length_skipSpace_le d
      rw [hsplit, List.length_cons] at hskip
      have htail := @ih m (by omega) hitem
      simp only [separated, hx, hsplit, if_neg hclose, if_true, htail, bind, Except.bind]

/-- **A container meets a limit exactly where one of its items does**: an error of the decoder
    apart, an item that is reached raises it. -/
theorem container_raises {item : Scan ε β} (h : Shrinks item) {close : ℕ} (hclose : comma ≠ close)
    {e : ScanError ε} (he : e ≠ .decode) {t : List ℕ} :
    container item close t = .error e ↔ ∃ t', ItemOf item close t t' ∧ item t' = .error e := by
  unfold container ItemOf
  cases hsplit : skipSpace t with
  | nil => simp [he.symm]
  | cons d u =>
    by_cases hd : d = close
    · simp [hd]
    · simp only [if_neg hd]
      rw [separated_raises h hclose he ⟨le_rfl, List.length_pos_of_ne_nil (by simp)⟩]
      simp [hd]

/-- A string meets no limit. -/
theorem scanString_error {t : List ℕ} {e : ScanError ε} (h : scanString t = .error e) :
    e = .decode := by
  unfold scanString at h
  split at h <;> cases h
  rfl

/-- A name is malformed, or it is not. -/
theorem scanName_error {t : List ℕ} {e : ScanError ε} (h : scanName t = .error e) :
    e = .decode := by
  have hexpect : ∀ {c : ℕ} {t : List ℕ}, expect c t = .error e → e = .decode := by
    intro c t h
    unfold expect at h
    split at h
    · exact (Except.error.inj h).symm
    · split_ifs at h
      exact (Except.error.inj h).symm
  rcases Raising.bind_error h with h | ⟨_, -, h⟩
  · exact hexpect h
  rcases Raising.bind_error h with h | ⟨_, -, h⟩
  · exact scanString_error h
  rcases Raising.bind_error h with h | ⟨_, -, h⟩
  · exact hexpect h
  · cases h

/-- A member meets a limit exactly in its value. -/
theorem member_raises {value : Scan ε β} {e : ScanError ε} (he : e ≠ .decode) {t : List ℕ} :
    member value t = .error e ↔ ∃ n u, scanName (ε := ε) t = .ok (n, u) ∧ value u = .error e := by
  constructor
  · intro h
    rcases Raising.bind_error h with h | ⟨⟨n, u⟩, hname, h⟩
    · exact absurd (scanName_error h) he
    rcases Raising.bind_error h with h | ⟨_, -, h⟩
    · exact ⟨n, u, hname, h⟩
    · cases h
  · rintro ⟨n, u, hname, h⟩
    simp only [member, hname, h, bind, Except.bind]

/-- The scanner comes to a value: `depth` is the room for nesting there. -/
inductive ValueAt (s : Settings ε) : ℕ → List ℕ → ℕ → List ℕ → Prop
  | here {d : ℕ} {t : List ℕ} : ValueAt s d t d t
  | item {d d' : ℕ} {r t t' : List ℕ} : ItemOf (scanOnce s d) closeBracket r t →
      ValueAt s d t d' t' → ValueAt s (d + 1) (openBracket :: r) d' t'
  | field {d d' : ℕ} {r t n u t' : List ℕ} : ItemOf (member (scanOnce s d)) closeBrace r t →
      scanName (ε := ε) t = .ok (n, u) → ValueAt s d u d' t' →
      ValueAt s (d + 1) (openBrace :: r) d' t'

/-- A container where there is no room left for one. -/
def TooDeep (depth : ℕ) (t : List ℕ) : Prop :=
  depth = 0 ∧ ∃ c r, t = c :: r ∧ (c = openBrace ∨ c = openBracket)

/-- An integer with too many digits. -/
def TooLong (s : Settings ε) (t : List ℕ) : Prop :=
  ∃ integer rest, scanInteger (scanSign [45] t).2 = some (integer, rest) ∧
    s.digitLimit < integer.length ∧ (scanFraction rest).1 = [] ∧
    (scanExponent (scanFraction rest).2).1 = []

/-- A number meets a limit exactly if it is an integer of too many digits. -/
theorem scanNumber_limit {s : Settings ε} {t : List ℕ} {e : ScanError ε} (he : e ≠ .decode) :
    scanNumber s t = .error e ↔ e = .digits ∧ TooLong s t := by
  unfold scanNumber
  dsimp only
  cases hinteger : scanInteger (scanSign [45] t).2 with
  | none =>
    simp only [Except.error.injEq, he.symm, false_iff, not_and]
    rintro - ⟨integer, rest, hsome, -⟩
    rw [hinteger] at hsome
    cases hsome
  | some found =>
    obtain ⟨integer, rest⟩ := found
    have hlong : TooLong s t ↔ s.digitLimit < integer.length ∧ (scanFraction rest).1 = [] ∧
        (scanExponent (scanFraction rest).2).1 = [] := by
      constructor
      · rintro ⟨_, _, hsome, h⟩
        rw [hinteger] at hsome
        cases hsome
        exact h
      · exact fun h => ⟨integer, rest, hinteger, h⟩
    rw [hlong]
    dsimp only
    split_ifs with hparts hdigits
    · simp [hparts, hdigits, eq_comm]
    · simp [hdigits]
    · simp only [false_iff, not_and]
      rintro - - hfraction hexponent
      exact hparts ⟨hfraction, hexponent⟩

/-- No keyword starts like an integer. -/
theorem not_tooLong_keyword {s : Settings ε} {t r : List ℕ} {v : Value}
    (h : scanKeyword t = some (v, r)) : ¬ TooLong s t := by
  obtain ⟨⟨word, v'⟩, hmem, h⟩ := List.exists_of_findSome?_eq_some h
  dsimp only at h
  split_ifs at h with hprefix
  obtain ⟨rest, rfl⟩ := List.isPrefixOf_iff_prefix.mp hprefix
  rintro ⟨integer, rest', hinteger, -⟩
  revert hmem
  simp only [keywords, List.mem_cons, Prod.mk.injEq, List.not_mem_nil, or_false]
  rintro (⟨rfl, -⟩ | ⟨rfl, -⟩ | ⟨rfl, -⟩ | ⟨rfl, -⟩ | ⟨rfl, -⟩ | ⟨rfl, -⟩) <;> cases hinteger

/-- What a value that is no container raises. -/
theorem scanLeaf_limit {s : Settings ε} {t : List ℕ} {e : ScanError ε} (he : e ≠ .decode) :
    scanLeaf s t = .error e ↔ e = .digits ∧ TooLong s t := by
  cases t with
  | nil =>
    simp only [scanLeaf, Except.error.injEq, he.symm, false_iff, not_and]
    rintro - ⟨_, _, hinteger, -⟩
    cases hinteger
  | cons c rest =>
    simp only [scanLeaf]
    split_ifs with hc
    · constructor
      · exact fun h => absurd (scanString_error (Raising.map_error h)) he
      · rintro ⟨-, integer, rest', hinteger, -⟩
        rw [hc] at hinteger
        cases hinteger
    · cases hkey : scanKeyword (c :: rest) with
      | none => exact scanNumber_limit he
      | some found =>
        simp only [reduceCtorEq, false_iff, not_and]
        exact fun _ => not_tooLong_keyword hkey

/-- What starts with a brace or a bracket is no integer of too many digits. -/
theorem not_tooLong_container {s : Settings ε} {c : ℕ} (hc : c = openBrace ∨ c = openBracket)
    (r : List ℕ) : ¬ TooLong s (c :: r) := by
  rintro ⟨integer, rest, hinteger, -⟩
  rcases hc with rfl | rfl <;> cases hinteger

/-- An exception of `scan_once` that is a limit of the interpreter. -/
def IsLimit (e : ScanError ε) : Prop := e = .digits ∨ e = .recursion

/-- A limit is no error of the decoder. -/
theorem IsLimit.ne_decode {e : ScanError ε} (he : IsLimit e) : e ≠ .decode := by
  rcases he with rfl | rfl <;> simp

/-- The exception for a limit that is met at a value. -/
def Stops (s : Settings ε) (e : ScanError ε) (depth : ℕ) (t : List ℕ) : Prop :=
  e = .recursion ∧ TooDeep depth t ∨ e = .digits ∧ TooLong s t

/-- A value where a limit is met. -/
theorem scanOnce_stops {s : Settings ε} {e : ScanError ε} {depth : ℕ} {t : List ℕ}
    (h : Stops s e depth t) : scanOnce s depth t = .error e := by
  rcases h with ⟨rfl, rfl, c, r, rfl, hc⟩ | ⟨rfl, hlong⟩
  · simp only [scanOnce, if_pos hc]
  · have hleaf := (@scanLeaf_limit _ s t .digits (by simp)).mpr ⟨rfl, hlong⟩
    cases t with
    | nil => cases hleaf
    | cons c r =>
      have hc : ¬ (c = openBrace ∨ c = openBracket) := fun hc => not_tooLong_container hc r hlong
      cases depth with
      | zero => simp only [scanOnce, if_neg hc, hleaf]
      | succ depth =>
        obtain ⟨hbrace, hbracket⟩ := not_or.mp hc
        simp only [scanOnce, if_neg hbrace, if_neg hbracket, hleaf]

/-- The separator closes nothing. -/
theorem comma_ne_close : comma ≠ closeBrace ∧ comma ≠ closeBracket := by decide

/-- **A limit is met at a value the scanner comes to**, and nowhere else. -/
theorem scanOnce_limit {s : Settings ε} {e : ScanError ε} (he : IsLimit e) {depth : ℕ}
    {t : List ℕ} : scanOnce s depth t = .error e ↔
      ∃ d' t', ValueAt s depth t d' t' ∧ Stops s e d' t' := by
  constructor
  · intro h
    induction depth generalizing t with
    | zero =>
      cases t with
      | nil => exact absurd (Except.error.inj h).symm he.ne_decode
      | cons c r =>
        -- no depth is left for a container
        refine ⟨0, c :: r, .here, ?_⟩
        simp only [scanOnce] at h
        split_ifs at h with hc
        · exact .inl ⟨(Except.error.inj h).symm, rfl, c, r, rfl, hc⟩
        · exact .inr ((scanLeaf_limit he.ne_decode).mp h)
    | succ depth ih =>
      cases t with
      | nil => exact absurd (Except.error.inj h).symm he.ne_decode
      | cons c r =>
        simp only [scanOnce] at h
        split_ifs at h with hbrace hbracket
        -- an object, by its members
        · subst hbrace
          rcases Raising.bind_error h with h | ⟨_, -, h⟩
          · obtain ⟨t, hof, hmember⟩ := (container_raises (member_shrinks (scanOnce_shrinks s depth))
              comma_ne_close.1 he.ne_decode).mp h
            obtain ⟨n, u, hname, hvalue⟩ := (member_raises he.ne_decode).mp hmember
            obtain ⟨d', t', hat, hstops⟩ := ih hvalue
            exact ⟨d', t', .field hof hname hat, hstops⟩
          · rcases Raising.bind_error h with h | ⟨_, -, h⟩
            · cases hhook : s.pairsHook _ with
              | ok v => rw [hhook] at h; cases h
              | error e' =>
                rw [hhook] at h
                cases h
                rcases he with he | he <;> cases he
            · cases h
        -- an array, by its items
        · subst hbracket
          obtain ⟨t, hof, hitem⟩ := (container_raises (scanOnce_shrinks s depth)
            comma_ne_close.2 he.ne_decode).mp (Raising.map_error h)
          obtain ⟨d', t', hat, hstops⟩ := ih hitem
          exact ⟨d', t', .item hof hat, hstops⟩
        · exact ⟨depth + 1, c :: r, .here, .inr ((scanLeaf_limit he.ne_decode).mp h)⟩
  · rintro ⟨d', t', hat, hstops⟩
    induction hat with
    | here => exact scanOnce_stops hstops
    | @item d d' r t t' hof _ ih =>
      have hraise := (container_raises (scanOnce_shrinks s d) comma_ne_close.2 he.ne_decode).mpr
        ⟨t, hof, ih hstops⟩
      have hbrace : openBracket ≠ openBrace := by decide
      simp only [scanOnce, if_neg hbrace, if_true, hraise, Except.map]
    | @field d d' r t n u t' hof hname _ ih =>
      have hmember := (member_raises he.ne_decode).mpr ⟨n, u, hname, ih hstops⟩
      have hraise := (container_raises (member_shrinks (scanOnce_shrinks s d))
        comma_ne_close.1 he.ne_decode).mpr ⟨t, hof, hmember⟩
      simp only [scanOnce, if_true, hraise, bind, Except.bind]

/-- A value of the text where a limit is met. -/
def LimitMet (s : Settings ε) (text : List ℕ) : Prop :=
  ∃ d t, ValueAt s s.recursionLimit (skipSpace text) d t ∧ (TooDeep d t ∨ TooLong s t)

/-- **`json.loads` raises for a limit exactly where the text meets one.** -/
theorem loads_limit {s : Settings ε} {text : List ℕ} :
    (∃ e, IsLimit e ∧ loads s text = .error e) ↔ LimitMet s text := by
  constructor
  · rintro ⟨e, he, h⟩
    rcases Raising.bind_error h with h | ⟨_, -, h⟩
    · obtain ⟨d, t, hat, ⟨-, hdeep⟩ | ⟨-, hlong⟩⟩ := (scanOnce_limit he).mp h
      · exact ⟨d, t, hat, .inl hdeep⟩
      · exact ⟨d, t, hat, .inr hlong⟩
    · dsimp only at h
      split_ifs at h
      · cases h
      · exact absurd (Except.error.inj h).symm he.ne_decode
  · have hraises : ∀ {e : ScanError ε} {d : ℕ} {t : List ℕ}, IsLimit e →
        ValueAt s s.recursionLimit (skipSpace text) d t → Stops s e d t →
          loads s text = .error e := by
      intro e d t he hat hstops
      simp only [loads, (scanOnce_limit he).mpr ⟨d, t, hat, hstops⟩, bind, Except.bind]
    rintro ⟨d, t, hat, hdeep | hlong⟩
    · exact ⟨.recursion, .inr rfl, hraises (.inr rfl) hat (.inl ⟨rfl, hdeep⟩)⟩
    · exact ⟨.digits, .inl rfl, hraises (.inl rfl) hat (.inr ⟨rfl, hlong⟩)⟩

end AEControl.JsonText
