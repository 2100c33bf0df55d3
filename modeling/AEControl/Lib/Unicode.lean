/-
  Unicode text and the encodings `json.loads` takes octets in.

  A text is a list of code points, octets are numbers.  The decoders let lone surrogates pass
  (`errors="surrogatepass"`).  What UTF-8 decodes is the encoding of the text it gives
  (`encodeUtf8_of_decodeUtf8`), and a text is read back from its encoding
  (`decodeUtf8_encodeUtf8`); a text that starts with two ASCII characters is taken for UTF-8.
-/
import Mathlib.Data.List.Basic
import Mathlib.Tactic.Ring

namespace AEControl.Unicode

/-! ## Code points -/

/-- The first half of a surrogate pair. -/
def IsHigh (c : ℕ) : Prop := 0xD800 ≤ c ∧ c < 0xDC00

/-- The second half. -/
def IsLow (c : ℕ) : Prop := 0xDC00 ≤ c ∧ c < 0xE000

instance : DecidablePred IsHigh := fun c => inferInstanceAs (Decidable (_ ∧ c < _))

instance : DecidablePred IsLow := fun c => inferInstanceAs (Decidable (_ ∧ c < _))

/-- A character: a code point that is no surrogate. -/
def IsScalar (c : ℕ) : Prop := c < 0xD800 ∨ 0xE000 ≤ c ∧ c ≤ 0x10FFFF

instance : DecidablePred IsScalar := fun c =>
  inferInstanceAs (Decidable (c < 0xD800 ∨ 0xE000 ≤ c ∧ c ≤ 0x10FFFF))

theorem IsScalar.le {c : ℕ} (h : IsScalar c) : c ≤ 0x10FFFF := by
  unfold IsScalar at h
  omega

/-- A code point as it stands, or a code unit that may be half of a pair. -/
inductive Piece where
  | char (c : ℕ)
  | unit (u : ℕ)
  deriving DecidableEq

/-- The code points of the pieces: a high unit and the low unit after it are one. -/
def joinUnits : List Piece → List ℕ
  | [] => []
  | .char c :: rest => c :: joinUnits rest
  | [.unit u] => [u]
  | .unit u :: .char c :: rest => u :: c :: joinUnits rest
  | .unit u :: .unit v :: rest =>
    if IsHigh u ∧ IsLow v then (0x10000 + (u - 0xD800) * 0x400 + (v - 0xDC00)) :: joinUnits rest
    else u :: joinUnits (.unit v :: rest)

/-! ## UTF-8 -/

/-- The octets of a code point. -/
def utf8Char (c : ℕ) : List ℕ :=
  if c < 0x80 then [c]
  else if c < 0x800 then [0xC0 + c / 0x40, 0x80 + c % 0x40]
  else if c < 0x10000 then [0xE0 + c / 0x1000, 0x80 + c / 0x40 % 0x40, 0x80 + c % 0x40]
  else [0xF0 + c / 0x40000, 0x80 + c / 0x1000 % 0x40, 0x80 + c / 0x40 % 0x40, 0x80 + c % 0x40]

/-- `text.encode("utf-8", "surrogatepass")`. -/
def encodeUtf8 (text : List ℕ) : List ℕ := text.flatMap utf8Char

/-- An octet that continues a character. -/
def IsTail (b : ℕ) : Prop := 0x80 ≤ b ∧ b < 0xC0

instance : DecidablePred IsTail := fun b => inferInstanceAs (Decidable (_ ∧ b < _))

/-- The code points of two, three and four octets. -/
def point2 (a b : ℕ) : ℕ := (a - 0xC0) * 0x40 + (b - 0x80)

def point3 (a b c : ℕ) : ℕ := (a - 0xE0) * 0x1000 + (b - 0x80) * 0x40 + (c - 0x80)

def point4 (a b c d : ℕ) : ℕ :=
  (a - 0xF0) * 0x40000 + (b - 0x80) * 0x1000 + (c - 0x80) * 0x40 + (d - 0x80)

/-- `octets.decode("utf-8", "surrogatepass")`; `none` for a `UnicodeDecodeError`.  A code point has
    its shortest form only. -/
def decodeUtf8 : List ℕ → Option (List ℕ)
  | [] => some []
  | a :: rest =>
    if a < 0x80 then (decodeUtf8 rest).map (a :: ·)
    else
      match rest with
      | [] => none
      | b :: rest =>
        if 0xC2 ≤ a ∧ a < 0xE0 ∧ IsTail b then (decodeUtf8 rest).map (point2 a b :: ·)
        else
          match rest with
          | [] => none
          | c :: rest =>
            if 0xE0 ≤ a ∧ a < 0xF0 ∧ IsTail b ∧ IsTail c ∧ 0x800 ≤ point3 a b c then
              (decodeUtf8 rest).map (point3 a b c :: ·)
            else
              match rest with
              | [] => none
              | d :: rest =>
                if 0xF0 ≤ a ∧ IsTail b ∧ IsTail c ∧ IsTail d ∧
                    0x10000 ≤ point4 a b c d ∧ point4 a b c d ≤ 0x10FFFF then
                  (decodeUtf8 rest).map (point4 a b c d :: ·)
                else none

@[simp] theorem encodeUtf8_nil : encodeUtf8 [] = [] := rfl

@[simp] theorem encodeUtf8_cons (c : ℕ) (text : List ℕ) :
    encodeUtf8 (c :: text) = utf8Char c ++ encodeUtf8 text := rfl

theorem utf8Char_ascii {c : ℕ} (h : c < 0x80) : utf8Char c = [c] := if_pos h

/-- One encoded character is taken off the front. -/
theorem decodeUtf8_utf8Char {c : ℕ} (hc : c ≤ 0x10FFFF) (rest : List ℕ) :
    decodeUtf8 (utf8Char c ++ rest) = (decodeUtf8 rest).map (c :: ·) := by
  unfold utf8Char
  -- a case for each length of the encoding
  split_ifs with h1 h2 h3
  · rw [List.singleton_append, decodeUtf8.eq_def]
    exact if_pos h1
  · have hpoint : point2 (0xC0 + c / 0x40) (0x80 + c % 0x40) = c := by
      unfold point2
      omega
    have hhead : ¬ 0xC0 + c / 0x40 < 0x80 := by omega
    have hguard : 0xC2 ≤ 0xC0 + c / 0x40 ∧ 0xC0 + c / 0x40 < 0xE0 ∧ IsTail (0x80 + c % 0x40) := by
      unfold IsTail
      omega
    rw [decodeUtf8.eq_def]
    simp only [List.cons_append, List.nil_append]
    rw [if_neg hhead, if_pos hguard, hpoint]
  · have hpoint : point3 (0xE0 + c / 0x1000) (0x80 + c / 0x40 % 0x40) (0x80 + c % 0x40) = c := by
      unfold point3
      omega
    have hhead : ¬ 0xE0 + c / 0x1000 < 0x80 := by omega
    have htwo : ¬ (0xC2 ≤ 0xE0 + c / 0x1000 ∧ 0xE0 + c / 0x1000 < 0xE0 ∧
        IsTail (0x80 + c / 0x40 % 0x40)) := by omega
    have hguard : 0xE0 ≤ 0xE0 + c / 0x1000 ∧ 0xE0 + c / 0x1000 < 0xF0 ∧
        IsTail (0x80 + c / 0x40 % 0x40) ∧ IsTail (0x80 + c % 0x40) ∧ 0x800 ≤ c := by
      unfold IsTail
      omega
    rw [decodeUtf8.eq_def]
    simp only [List.cons_append, List.nil_append]
    rw [hpoint, if_neg hhead, if_neg htwo, if_pos hguard]
  · have hpoint : point4 (0xF0 + c / 0x40000) (0x80 + c / 0x1000 % 0x40) (0x80 + c / 0x40 % 0x40)
        (0x80 + c % 0x40) = c := by
      unfold point4
      omega
    have hhead : ¬ 0xF0 + c / 0x40000 < 0x80 := by omega
    have htwo : ¬ (0xC2 ≤ 0xF0 + c / 0x40000 ∧ 0xF0 + c / 0x40000 < 0xE0 ∧
        IsTail (0x80 + c / 0x1000 % 0x40)) := by omega
    have hthree : ∀ p, ¬ (0xE0 ≤ 0xF0 + c / 0x40000 ∧ 0xF0 + c / 0x40000 < 0xF0 ∧
        IsTail (0x80 + c / 0x1000 % 0x40) ∧ IsTail (0x80 + c / 0x40 % 0x40) ∧ 0x800 ≤ p) := by
      intro p
      omega
    have hguard : 0xF0 ≤ 0xF0 + c / 0x40000 ∧ IsTail (0x80 + c / 0x1000 % 0x40) ∧
        IsTail (0x80 + c / 0x40 % 0x40) ∧ IsTail (0x80 + c % 0x40) ∧
        0x10000 ≤ c ∧ c ≤ 0x10FFFF := by
      unfold IsTail
      omega
    rw [decodeUtf8.eq_def]
    simp only [List.cons_append, List.nil_append]
    rw [hpoint, if_neg hhead, if_neg htwo, if_neg (hthree _), if_pos hguard]

/-- **A text is read back from its encoding.** -/
theorem decodeUtf8_encodeUtf8 {text : List ℕ} (h : ∀ c ∈ text, c ≤ 0x10FFFF) :
    decodeUtf8 (encodeUtf8 text) = some text := by
  induction text with
  | nil => rfl
  | cons c text ih =>
    rw [encodeUtf8_cons, decodeUtf8_utf8Char (h c List.mem_cons_self),
      ih fun d hd => h d (List.mem_cons_of_mem c hd), Option.map_some]

theorem utf8Char_point2 {a b : ℕ} (ha : 0xC2 ≤ a ∧ a < 0xE0) (hb : IsTail b) :
    utf8Char (point2 a b) = [a, b] := by
  unfold IsTail at hb
  have hlow : ¬ point2 a b < 0x80 := by unfold point2; omega
  have hhigh : point2 a b < 0x800 := by unfold point2; omega
  unfold utf8Char
  rw [if_neg hlow, if_pos hhigh]
  unfold point2
  simp only [List.cons.injEq, and_true]
  omega

theorem utf8Char_point3 {a b c : ℕ} (ha : 0xE0 ≤ a ∧ a < 0xF0) (hb : IsTail b) (hc : IsTail c)
    (h : 0x800 ≤ point3 a b c) : utf8Char (point3 a b c) = [a, b, c] := by
  unfold IsTail at hb hc
  have hlow : ¬ point3 a b c < 0x80 := by omega
  have hmid : ¬ point3 a b c < 0x800 := by omega
  have hhigh : point3 a b c < 0x10000 := by unfold point3; omega
  unfold utf8Char
  rw [if_neg hlow, if_neg hmid, if_pos hhigh]
  unfold point3
  simp only [List.cons.injEq, and_true]
  omega

theorem utf8Char_point4 {a b c d : ℕ} (ha : 0xF0 ≤ a) (hb : IsTail b) (hc : IsTail c)
    (hd : IsTail d) (h : 0x10000 ≤ point4 a b c d) :
    utf8Char (point4 a b c d) = [a, b, c, d] := by
  unfold IsTail at hb hc hd
  have hlow : ¬ point4 a b c d < 0x80 := by omega
  have hmid : ¬ point4 a b c d < 0x800 := by omega
  have hhigh : ¬ point4 a b c d < 0x10000 := by omega
  unfold utf8Char
  rw [if_neg hlow, if_neg hmid, if_neg hhigh]
  unfold point4
  simp only [List.cons.injEq, and_true]
  omega

/-- A text with a first character before it. -/
theorem encodeUtf8_cons_of_map {octets text : List ℕ} {c : ℕ} {head : List ℕ}
    (hhead : utf8Char c = head) (hc : c ≤ 0x10FFFF)
    (ih : ∀ t, decodeUtf8 octets = some t → octets = encodeUtf8 t ∧ ∀ d ∈ t, d ≤ 0x10FFFF)
    (h : (decodeUtf8 octets).map (c :: ·) = some text) :
    head ++ octets = encodeUtf8 text ∧ ∀ d ∈ text, d ≤ 0x10FFFF := by
  obtain ⟨t, ht, rfl⟩ := Option.map_eq_some_iff.mp h
  obtain ⟨hoctets, hbound⟩ := ih t ht
  refine ⟨by rw [encodeUtf8_cons, hhead, ← hoctets], ?_⟩
  intro d hd
  rcases List.mem_cons.mp hd with rfl | hd
  · exact hc
  · exact hbound d hd

/-- **What is decoded is the encoding of the text.** -/
theorem encodeUtf8_of_decodeUtf8 {octets text : List ℕ} (h : decodeUtf8 octets = some text) :
    octets = encodeUtf8 text ∧ ∀ c ∈ text, c ≤ 0x10FFFF := by
  fun_induction decodeUtf8 octets generalizing text with
  | case1 =>
    obtain rfl : [] = text := Option.some.inj h
    exact ⟨rfl, fun c hc => absurd hc List.not_mem_nil⟩
  | case2 a rest ha ih =>
    exact encodeUtf8_cons_of_map (utf8Char_ascii ha) (by omega) (fun t => ih) h
  | case4 a _ b rest hg ih =>
    obtain ⟨ha, ha', hb⟩ := hg
    have hpoint : point2 a b ≤ 0x10FFFF := by
      unfold IsTail at hb
      unfold point2
      omega
    exact encodeUtf8_cons_of_map (utf8Char_point2 ⟨ha, ha'⟩ hb) hpoint (fun t => ih) h
  | case6 a _ b _ c rest hg ih =>
    obtain ⟨ha, ha', hb, hc, hshort⟩ := hg
    have hpoint : point3 a b c ≤ 0x10FFFF := by
      unfold IsTail at hb hc
      unfold point3
      omega
    exact encodeUtf8_cons_of_map (utf8Char_point3 ⟨ha, ha'⟩ hb hc hshort) hpoint (fun t => ih) h
  | case8 a _ b _ c _ d rest hg ih =>
    obtain ⟨ha, hb, hc, hd, hshort, hpoint⟩ := hg
    exact encodeUtf8_cons_of_map (utf8Char_point4 ha hb hc hd hshort) hpoint (fun t => ih) h
  | case3 | case5 | case7 | case9 => cases h

/-! ## UTF-16 and UTF-32 -/

/-- The units of two octets; `none` when one is left over. -/
def units16 (big : Bool) : List ℕ → Option (List Piece)
  | [] => some []
  | [_] => none
  | a :: b :: rest =>
    (units16 big rest).map (.unit (if big then a * 0x100 + b else b * 0x100 + a) :: ·)

/-- `octets.decode("utf-16-be", "surrogatepass")`, or `"utf-16-le"`. -/
def decodeUtf16 (big : Bool) (octets : List ℕ) : Option (List ℕ) :=
  (units16 big octets).map joinUnits

/-- The code point of four octets, the most significant first. -/
def point32 (a b c d : ℕ) : ℕ := ((a * 0x100 + b) * 0x100 + c) * 0x100 + d

/-- `octets.decode("utf-32-be", "surrogatepass")`, or `"utf-32-le"`. -/
def decodeUtf32 (big : Bool) : List ℕ → Option (List ℕ)
  | [] => some []
  | a :: b :: c :: d :: rest =>
    let point := if big then point32 a b c d else point32 d c b a
    if point ≤ 0x10FFFF then (decodeUtf32 big rest).map (point :: ·) else none
  | _ => none

/-! ## `json.loads` of octets -/

/-- The encodings `json.detect_encoding` tells apart; one with a mark reads and drops it. -/
inductive Encoding where
  | utf8 (mark : Bool)
  | utf16 (big mark : Bool)
  | utf32 (big mark : Bool)
  deriving DecidableEq

/-- `json.detect_encoding`: by a byte order mark, or by which of the first octets are zero. -/
def detectEncoding (octets : List ℕ) : Encoding :=
  if [0x00, 0x00, 0xFE, 0xFF].isPrefixOf octets then .utf32 true true
  else if [0xFF, 0xFE, 0x00, 0x00].isPrefixOf octets then .utf32 false true
  else if [0xFE, 0xFF].isPrefixOf octets then .utf16 true true
  else if [0xFF, 0xFE].isPrefixOf octets then .utf16 false true
  else if [0xEF, 0xBB, 0xBF].isPrefixOf octets then .utf8 true
  else
    match octets with
    | a :: b :: c :: d :: _ =>
      if a = 0 then if b = 0 then .utf32 true false else .utf16 true false
      else if b = 0 then
        if c = 0 ∧ d = 0 then .utf32 false false else .utf16 false false
      else .utf8 false
    | [a, b] =>
      if a = 0 then .utf16 true false else if b = 0 then .utf16 false false else .utf8 false
    | _ => .utf8 false

/-- The text of octets in an encoding. -/
def decodeAs (octets : List ℕ) : Encoding → Option (List ℕ)
  | .utf8 mark => decodeUtf8 (if mark then octets.drop 3 else octets)
  | .utf16 big mark => decodeUtf16 big (if mark then octets.drop 2 else octets)
  | .utf32 big mark => decodeUtf32 big (if mark then octets.drop 4 else octets)

/-- `octets.decode(json.detect_encoding(octets), "surrogatepass")`. -/
def decodeDetected (octets : List ℕ) : Option (List ℕ) := decodeAs octets (detectEncoding octets)

/-- **Octets that start with two ASCII characters are taken for UTF-8.** -/
theorem detectEncoding_ascii {a b : ℕ} (ha : 0 < a ∧ a < 0x80) (hb : 0 < b ∧ b < 0x80)
    (rest : List ℕ) : detectEncoding (a :: b :: rest) = .utf8 false := by
  have ha0 : a ≠ 0 := by omega
  have hb0 : b ≠ 0 := by omega
  have hmarks : (0 == a) = false ∧ (0xFF == a) = false ∧ (0xFE == a) = false ∧
      (0xEF == a) = false := by
    simp only [beq_eq_false_iff_ne]
    omega
  unfold detectEncoding
  simp only [List.isPrefixOf, hmarks, Bool.false_and, Bool.false_eq_true, if_false]
  match rest with
  | [] => simp [ha0, hb0]
  | [_] => rfl
  | _ :: _ :: _ => simp [ha0, hb0]

/-- Plain UTF-8 is the encoding of the text it gives. -/
theorem decodeDetected_utf8 {octets text : List ℕ} (hplain : detectEncoding octets = .utf8 false)
    (h : decodeDetected octets = some text) :
    octets = encodeUtf8 text ∧ ∀ c ∈ text, c ≤ 0x10FFFF := by
  rw [decodeDetected, hplain] at h
  exact encodeUtf8_of_decodeUtf8 h

end AEControl.Unicode
