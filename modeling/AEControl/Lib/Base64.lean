/-
  Base64 with the strict check of `binascii.a2b_base64`.

  Characters and bytes are numbers.  `Encodes s d` is the grammar: full groups of four, a last group
  with padding.  The decoder accepts it (`a2bBase64_of_encodes`, `a2bBase64_some`); releases of the
  interpreter differ in whether padding after a complete last group passes too.
-/
import Mathlib.Data.List.Basic
import Mathlib.Tactic.Ring

namespace AEControl.Base64

/-- `=`. -/
def pad : ℕ := 61

/-- The value of a character of the alphabet. -/
def sextet (c : ℕ) : Option ℕ :=
  if 65 ≤ c ∧ c ≤ 90 then some (c - 65)
  else if 97 ≤ c ∧ c ≤ 122 then some (c - 71)
  else if 48 ≤ c ∧ c ≤ 57 then some (c + 4)
  else if c = 43 then some 62
  else if c = 47 then some 63
  else none

/-- The byte of two characters, of three, and the three of four: the bits that do not fill a byte
    are dropped. -/
def bytes2 (w x : ℕ) : List ℕ := [w * 4 + x / 16]

def bytes3 (w x y : ℕ) : List ℕ := [w * 4 + x / 16, x % 16 * 16 + y / 4]

def bytes4 (w x y z : ℕ) : List ℕ := [w * 4 + x / 16, x % 16 * 16 + y / 4, y % 4 * 64 + z]

/-- The groups of a text, the last one with its padding; `excess` lets padding pass after a
    complete one. -/
def decodeGroups (excess : Bool) : List ℕ → Option (List ℕ)
  | [] => some []
  | a :: rest =>
    if a = pad then if excess && rest.all (· = pad) then some [] else none
    else
      match rest with
      | b :: c :: d :: rest =>
        match sextet a, sextet b with
        | some w, some x =>
          if c = pad then if d = pad ∧ rest = [] then some (bytes2 w x) else none
          else
            match sextet c with
            | none => none
            | some y =>
              if d = pad then if rest = [] then some (bytes3 w x y) else none
              else
                match sextet d with
                | none => none
                | some z => (decodeGroups excess rest).map (bytes4 w x y z ++ ·)
        | _, _ => none
      | _ => none

/-- `binascii.a2b_base64(data, strict_mode=True)`; `none` for a `binascii.Error`. -/
def a2bBase64 (excess : Bool) (data : List ℕ) : Option (List ℕ) :=
  if data.head? = some pad then none else decodeGroups excess data

/-- The text `s` is the base64 of the bytes `d`. -/
inductive Encodes : List ℕ → List ℕ → Prop
  | nil : Encodes [] []
  | pad2 {a b w x : ℕ} : sextet a = some w → sextet b = some x →
      Encodes [a, b, pad, pad] (bytes2 w x)
  | pad1 {a b c w x y : ℕ} : sextet a = some w → sextet b = some x → sextet c = some y →
      Encodes [a, b, c, pad] (bytes3 w x y)
  | group {a b c d w x y z : ℕ} {s r : List ℕ} : sextet a = some w → sextet b = some x →
      sextet c = some y → sextet d = some z → Encodes s r →
      Encodes (a :: b :: c :: d :: s) (bytes4 w x y z ++ r)

theorem sextet_pad : sextet pad = none := rfl

theorem ne_pad_of_sextet {c w : ℕ} (h : sextet c = some w) : c ≠ pad := by
  rintro rfl
  rw [sextet_pad] at h
  cases h

/-- What is encoded is decoded. -/
theorem decodeGroups_of_encodes (excess : Bool) {s d : List ℕ} (h : Encodes s d) :
    decodeGroups excess s = some d := by
  induction h with
  | nil => simp [decodeGroups]
  | pad2 ha hb => simp [decodeGroups, ne_pad_of_sextet ha, ha, hb]
  | pad1 ha hb hc => simp [decodeGroups, ne_pad_of_sextet ha, ne_pad_of_sextet hc, ha, hb, hc]
  | group ha hb hc hd _ ih =>
    simp [decodeGroups, ne_pad_of_sextet ha, ne_pad_of_sextet hc, ne_pad_of_sextet hd, ha, hb, hc,
      hd, ih]

/-- Padding behind a text of complete groups. -/
def ExcessPadding (s : List ℕ) : Prop :=
  ∃ t k, s = t ++ List.replicate (k + 1) pad ∧ t.length % 4 = 0 ∧ pad ∉ t

theorem excessPadding_group {a b c d w x y z : ℕ} {s : List ℕ} (ha : sextet a = some w)
    (hb : sextet b = some x) (hc : sextet c = some y) (hd : sextet d = some z)
    (h : ExcessPadding s) : ExcessPadding (a :: b :: c :: d :: s) := by
  obtain ⟨t, k, rfl, hlen, hpad⟩ := h
  refine ⟨a :: b :: c :: d :: t, k, rfl, ?_, ?_⟩
  · simp only [List.length_cons]
    omega
  · simp only [List.mem_cons, not_or]
    exact ⟨(ne_pad_of_sextet ha).symm, (ne_pad_of_sextet hb).symm, (ne_pad_of_sextet hc).symm,
      (ne_pad_of_sextet hd).symm, hpad⟩

/-- What is decoded is encoded, or has padding too much. -/
theorem encodes_of_decodeGroups {excess : Bool} : ∀ {s r : List ℕ},
    decodeGroups excess s = some r → Encodes s r ∨ excess = true ∧ ExcessPadding s
  | [], r, h => by
    obtain rfl : [] = r := by simpa [decodeGroups] using h
    exact .inl .nil
  | a :: rest, r, h => by
    unfold decodeGroups at h
    split at h
    · rename_i hpad
      split at h
      · rename_i hall
        obtain ⟨hexcess, hall⟩ := (Bool.and_eq_true _ _).mp hall
        have hrest : rest = List.replicate rest.length pad :=
          List.eq_replicate_iff.mpr ⟨rfl, fun b hb => by simpa using List.all_eq_true.mp hall b hb⟩
        refine .inr ⟨hexcess, [], rest.length, ?_, rfl, List.not_mem_nil⟩
        rw [List.nil_append, List.replicate_succ, ← hrest, hpad]
      · cases h
    · split at h
      -- a group of four, with two pads, with one or with none
      · rename_i b c d s
        split at h
        · rename_i w x ha hb
          split at h
          · rename_i hc
            split at h
            · rename_i hd
              obtain rfl := Option.some.inj h
              rw [hc, hd.1, hd.2]
              exact .inl (.pad2 ha hb)
            · cases h
          · split at h
            · cases h
            · rename_i y hc
              split at h
              · rename_i hd
                split at h
                · rename_i hs
                  obtain rfl := Option.some.inj h
                  rw [hd, hs]
                  exact .inl (.pad1 ha hb hc)
                · cases h
              · split at h
                · cases h
                · rename_i z hd
                  obtain ⟨r', hr', rfl⟩ := Option.map_eq_some_iff.mp h
                  rcases encodes_of_decodeGroups hr' with henc | ⟨hexcess, hex⟩
                  · exact .inl (.group ha hb hc hd henc)
                  · exact .inr ⟨hexcess, excessPadding_group ha hb hc hd hex⟩
        · cases h
      · cases h

/-- Base64 comes in groups of four, at most two characters of padding among them. -/
theorem Encodes.shape {s r : List ℕ} (h : Encodes s r) : s.length % 4 = 0 ∧ s.count pad ≤ 2 := by
  induction h with
  | nil => simp
  | pad2 ha hb => simp [ne_pad_of_sextet ha, ne_pad_of_sextet hb]
  | pad1 ha hb hc => simp [ne_pad_of_sextet ha, ne_pad_of_sextet hb, ne_pad_of_sextet hc]
  | group ha hb hc hd _ ih =>
    obtain ⟨hlen, hcount⟩ := ih
    constructor
    · simp only [List.length_cons]
      omega
    · simpa [List.count_cons, ne_pad_of_sextet ha, ne_pad_of_sextet hb, ne_pad_of_sextet hc,
        ne_pad_of_sextet hd] using hcount

/-- A text with too much padding is no base64. -/
theorem not_excessPadding {s r : List ℕ} (h : Encodes s r) : ¬ ExcessPadding s := by
  rintro ⟨t, k, rfl, hlen, hpad⟩
  obtain ⟨hfour, hcount⟩ := h.shape
  rw [List.length_append, List.length_replicate] at hfour
  rw [List.count_append, List.count_replicate_self, List.count_eq_zero_of_not_mem hpad] at hcount
  omega

/-- **The decoder accepts base64**, and, where the release is lenient, excess padding. -/
theorem a2bBase64_some {excess : Bool} {s r : List ℕ} (h : a2bBase64 excess s = some r) :
    Encodes s r ∨ excess = true ∧ ExcessPadding s := by
  unfold a2bBase64 at h
  split at h
  · cases h
  · exact encodes_of_decodeGroups h

theorem a2bBase64_of_encodes (excess : Bool) {s r : List ℕ} (h : Encodes s r) :
    a2bBase64 excess s = some r := by
  have hhead : s.head? ≠ some pad := by
    cases h with
    | nil => simp
    | pad2 ha | pad1 ha | group ha => simpa using ne_pad_of_sextet ha
  unfold a2bBase64
  rw [if_neg hhead]
  exact decodeGroups_of_encodes excess h

/-- Base64 is ASCII without white space. -/
theorem Encodes.alphabet {s r : List ℕ} (h : Encodes s r) : ∀ c ∈ s, 32 < c ∧ c < 127 := by
  have hsextet : ∀ {c w : ℕ}, sextet c = some w → 32 < c ∧ c < 127 := by
    intro c w hc
    unfold sextet at hc
    split_ifs at hc <;> omega
  have hpad : 32 < pad ∧ pad < 127 := by decide
  induction h with
  | nil => exact fun c hc => absurd hc List.not_mem_nil
  | pad2 ha hb => simp [hsextet ha, hsextet hb, hpad]
  | pad1 ha hb hc => simp [hsextet ha, hsextet hb, hsextet hc, hpad]
  | group ha hb hc hd _ ih =>
    intro e he
    simp only [List.mem_cons] at he
    rcases he with rfl | rfl | rfl | rfl | he
    · exact hsextet ha
    · exact hsextet hb
    · exact hsextet hc
    · exact hsextet hd
    · exact ih e he

/-! ## The encoder -/

/-- The character of a value. -/
def char (w : ℕ) : ℕ :=
  if w < 26 then w + 65 else if w < 52 then w + 71 else if w < 62 then w - 4
  else if w = 62 then 43 else 47

theorem sextet_char {w : ℕ} (h : w < 64) : sextet (char w) = some w := by
  unfold char sextet
  split_ifs <;> first | omega | rfl | exact congrArg some (by omega)

/-- `base64.b64encode`: the bits that do not fill a character are zero. -/
def encode : List ℕ → List ℕ
  | [] => []
  | [a] => [char (a / 4), char (a % 4 * 16), pad, pad]
  | [a, b] => [char (a / 4), char (a % 4 * 16 + b / 16), char (b % 16 * 4), pad]
  | a :: b :: c :: rest =>
    char (a / 4) :: char (a % 4 * 16 + b / 16) :: char (b % 16 * 4 + c / 64) :: char (c % 64) ::
      encode rest

theorem encodes_encode : ∀ {d : List ℕ}, (∀ b ∈ d, b < 256) → Encodes (encode d) d
  | [], _ => .nil
  | [a], h => by
    have ha := h a (by simp)
    have hbytes : bytes2 (a / 4) (a % 4 * 16) = [a] := by
      simp only [bytes2, List.cons.injEq, and_true]
      omega
    have h₁ : a / 4 < 64 := by omega
    have h₂ : a % 4 * 16 < 64 := by omega
    have hencodes := Encodes.pad2 (sextet_char h₁) (sextet_char h₂)
    rwa [hbytes] at hencodes
  | [a, b], h => by
    have ha := h a (by simp)
    have hb := h b (by simp)
    have hbytes : bytes3 (a / 4) (a % 4 * 16 + b / 16) (b % 16 * 4) = [a, b] := by
      simp only [bytes3, List.cons.injEq, and_true]
      omega
    have h₁ : a / 4 < 64 := by omega
    have h₂ : a % 4 * 16 + b / 16 < 64 := by omega
    have h₃ : b % 16 * 4 < 64 := by omega
    have hencodes := Encodes.pad1 (sextet_char h₁) (sextet_char h₂) (sextet_char h₃)
    rwa [hbytes] at hencodes
  | a :: b :: c :: rest, h => by
    have ha := h a (by simp)
    have hb := h b (by simp)
    have hc := h c (by simp)
    have hrest : Encodes (encode rest) rest := encodes_encode fun x hx => h x (by simp [hx])
    have hbytes : bytes4 (a / 4) (a % 4 * 16 + b / 16) (b % 16 * 4 + c / 64) (c % 64) ++ rest =
        a :: b :: c :: rest := by
      simp only [bytes4, List.cons_append, List.nil_append, List.cons.injEq, and_true]
      omega
    have h₁ : a / 4 < 64 := by omega
    have h₂ : a % 4 * 16 + b / 16 < 64 := by omega
    have h₃ : b % 16 * 4 + c / 64 < 64 := by omega
    have h₄ : c % 64 < 64 := by omega
    have hencodes := Encodes.group (sextet_char h₁) (sextet_char h₂) (sextet_char h₃)
      (sextet_char h₄) hrest
    rwa [hbytes] at hencodes

/-- What is encoded is decoded, by every release. -/
theorem a2bBase64_encode (excess : Bool) {d : List ℕ} (h : ∀ b ∈ d, b < 256) :
    a2bBase64 excess (encode d) = some d :=
  a2bBase64_of_encodes excess (encodes_encode h)

end AEControl.Base64
