/-
  Python text, as far as this development reads it: `str.strip`, `str.splitlines`, the hexadecimal
  of `format(n, "x")` at a fixed width, and cutting a UTF-8 encoding at a byte limit with
  `errors="replace"`.
-/
import Mathlib.Data.List.Basic
import Mathlib.Tactic.Linarith

namespace AEControl.Text

/-! ## `str.strip` -/

/-- `str.isspace` of a single character: the characters `str.strip` removes. -/
def isSpace (c : Char) : Bool :=
  let n := c.toNat
  (9 ≤ n && n ≤ 13) || (28 ≤ n && n ≤ 32) || n = 0x85 || n = 0xa0 || n = 0x1680 ||
    (0x2000 ≤ n && n ≤ 0x200a) || n = 0x2028 || n = 0x2029 || n = 0x202f || n = 0x205f ||
    n = 0x3000

/-- `str.strip()`. -/
def strip (s : String) : String :=
  String.ofList ((s.toList.dropWhile isSpace).reverse.dropWhile isSpace).reverse

/-! ## `str.splitlines` -/

/-- The characters that end a line; a carriage return takes a line feed after it along. -/
def isLineBoundary (c : Char) : Bool :=
  let n := c.toNat
  (10 ≤ n && n ≤ 13) || (28 ≤ n && n ≤ 30) || n = 0x85 || n = 0x2028 || n = 0x2029

/-- The lines of a text whose first line so far is `line`, reversed. -/
def splitlinesFrom (line : List Char) : List Char → List String
  | [] => if line = [] then [] else [String.ofList line.reverse]
  | '\r' :: '\n' :: cs => String.ofList line.reverse :: splitlinesFrom [] cs
  | c :: cs =>
    if isLineBoundary c then String.ofList line.reverse :: splitlinesFrom [] cs
    else splitlinesFrom (c :: line) cs

/-- `str.splitlines()`. -/
def splitlines (s : String) : List String := splitlinesFrom [] s.toList

/-! ## Hexadecimal of a fixed width -/

/-- The lower-case hexadecimal digit of `n < 16`. -/
def hexDigit (n : Nat) : Char :=
  if n < 10 then Char.ofNat (48 + n) else Char.ofNat (87 + n)

/-- The lowest `w` hexadecimal digits of `n`, most significant first. -/
def hexDigits : Nat → Nat → List Char
  | 0, _ => []
  | w + 1, n => hexDigits w (n / 16) ++ [hexDigit (n % 16)]

@[simp] theorem length_hexDigits (w n : Nat) : (hexDigits w n).length = w := by
  induction w generalizing n with
  | zero => rfl
  | succ w ih => simp [hexDigits, ih]

theorem mem_hexDigits {w n : Nat} {c : Char} (h : c ∈ hexDigits w n) :
    ∃ d < 16, c = hexDigit d := by
  induction w generalizing n with
  | zero => cases h
  | succ w ih =>
    rcases List.mem_append.mp h with h | h
    · exact ih h
    · exact ⟨n % 16, Nat.mod_lt _ (by omega), List.mem_singleton.mp h⟩

theorem hexDigit_inj {m n : Nat} (hm : m < 16) (hn : n < 16) (h : hexDigit m = hexDigit n) :
    m = n := by
  have key : ∀ a < 16, ∀ b < 16, hexDigit a = hexDigit b → a = b := by decide
  exact key m hm n hn h

/-- Numbers below `16 ^ w` are told apart by their `w` digits. -/
theorem hexDigits_inj {w m n : Nat} (hm : m < 16 ^ w) (hn : n < 16 ^ w)
    (h : hexDigits w m = hexDigits w n) : m = n := by
  induction w generalizing m n with
  | zero => simp at hm hn; omega
  | succ w ih =>
    obtain ⟨hinit, hlast⟩ := List.append_inj' h rfl
    have hd : m % 16 = n % 16 :=
      hexDigit_inj (Nat.mod_lt _ (by omega)) (Nat.mod_lt _ (by omega)) (List.cons.inj hlast).1
    have hq : m / 16 = n / 16 :=
      ih (by rw [pow_succ] at hm; omega) (by rw [pow_succ] at hn; omega) hinit
    omega

/-! ## Texts joined by a separator -/

/-- What stands before the first separator is determined, and so is what follows it. -/
theorem append_separator_inj {sep : Char} {x y s t : List Char} (hx : sep ∉ x) (hy : sep ∉ y)
    (h : x ++ sep :: s = y ++ sep :: t) : x = y ∧ s = t := by
  induction x generalizing y with
  | nil =>
    cases y with
    | nil => exact ⟨rfl, (List.cons.inj h).2⟩
    | cons d y => exact absurd List.mem_cons_self ((List.cons.inj h).1 ▸ hy)
  | cons c x ih =>
    cases y with
    | nil => exact absurd List.mem_cons_self ((List.cons.inj h).1 ▸ hx)
    | cons d y =>
      obtain ⟨rfl, hrest⟩ := List.cons.inj h
      obtain ⟨rfl, hst⟩ := ih (fun hc => hx (List.mem_cons_of_mem _ hc))
        (fun hc => hy (List.mem_cons_of_mem _ hc)) hrest
      exact ⟨rfl, hst⟩

/-! ## Truncation of a UTF-8 encoding -/

/-- The characters whose encodings fit into the first `limit` bytes, and whether the cut fell
    inside a character. -/
def cutUtf8 : Nat → List Char → List Char × Bool
  | _, [] => ([], false)
  | limit, c :: cs =>
    if c.utf8Size ≤ limit then
      let (kept, split) := cutUtf8 (limit - c.utf8Size) cs
      (c :: kept, split)
    else ([], limit != 0)

/-- `s.encode()[:limit].decode(errors="replace")`: a character the cut splits is decoded to one
    U+FFFD. -/
def decodeCut (limit : Nat) (s : String) : String :=
  let (kept, split) := cutUtf8 limit s.toList
  String.ofList (if split then kept ++ [Char.ofNat 0xfffd] else kept)

end AEControl.Text
