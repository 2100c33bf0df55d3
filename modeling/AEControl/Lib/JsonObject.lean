/-
  JSON objects whose values are all strings: a grammar of their texts, and that `json.loads` reads
  these and no others (`loads_of_objectText`, `objectText_of_loads`).

  A part of the grammar relates a text, what it says, and what is left of the text.  The last
  section bounds the characters of such a text by ASCII and the strings of the object.
-/
import AEControl.Lib.JsonText

namespace AEControl.JsonText

open Unicode

variable {ε : Type*}

/-! ## Objects of strings -/

/-- A field with a string for its value. -/
def Field (t : List ℕ) (f : List ℕ × List ℕ) (r : List ℕ) : Prop :=
  ∃ a b c d, t = quote :: a ∧ StringText a f.1 b ∧ Ws b (colon :: c) ∧ Ws c (quote :: d) ∧
    StringText d f.2 r

/-- Fields with commas between them up to the closing brace. -/
inductive Fields : List ℕ → List (List ℕ × List ℕ) → List ℕ → Prop
  | last {t r u : List ℕ} {f : List ℕ × List ℕ} : Field t f r → Ws r (closeBrace :: u) →
      Fields t [f] u
  | more {t r a b u : List ℕ} {f : List ℕ × List ℕ} {fs : List (List ℕ × List ℕ)} :
      Field t f r → Ws r (comma :: a) → Ws a b → Fields b fs u → Fields t (f :: fs) u

/-- The text is an object, and all its values are strings. -/
def ObjectText (text : List ℕ) (fs : List (List ℕ × List ℕ)) : Prop :=
  ∃ a b r, Ws text (openBrace :: a) ∧
    (fs = [] ∧ Ws a (closeBrace :: r) ∨ Ws a b ∧ Fields b fs r) ∧ Ws r []

/-- The fields as the hook gets them. -/
def strValues (fs : List (List ℕ × List ℕ)) : List (List ℕ × Value) :=
  fs.map fun f => (f.1, .str f.2)

/-- The characters that separate are no white space. -/
theorem isSpace_tokens : isSpace quote = false ∧ isSpace colon = false ∧ isSpace comma = false ∧
    isSpace openBrace = false ∧ isSpace closeBrace = false := by decide

/-- A string is scanned as its text. -/
theorem scanLeaf_string {s : Settings ε} {a u r : List ℕ} (h : StringText a u r) :
    scanLeaf s (quote :: a) = .ok (.str u, r) := by
  simp only [scanLeaf, if_true, scanString_ok.mpr h, Except.map]

/-- A string is scanned as its text at every depth. -/
theorem scanOnce_string {s : Settings ε} (depth : ℕ) {a u r : List ℕ} (h : StringText a u r) :
    scanOnce s depth (quote :: a) = .ok (.str u, r) := by
  have hbrace : quote ≠ openBrace := by decide
  have hbracket : quote ≠ openBracket := by decide
  cases depth with
  | zero => simp only [scanOnce, hbrace, hbracket, or_self, if_false, scanLeaf_string h]
  | succ depth => simp only [scanOnce, if_neg hbrace, if_neg hbracket, scanLeaf_string h]

/-- A field consumes something. -/
theorem Field.length_lt {t r : List ℕ} {f : List ℕ × List ℕ} (h : Field t f r) :
    r.length < t.length := by
  obtain ⟨a, b, c, d, rfl, ⟨_, hname, -⟩, ⟨w, -, rfl⟩, ⟨w', -, rfl⟩, ⟨_, hvalue, -⟩⟩ := h
  have h1 := hname.length_lt
  have h2 := hvalue.length_lt
  simp only [List.length_append, List.length_cons] at h1 ⊢
  omega

/-- A field is read … -/
theorem member_of_field {s : Settings ε} (depth : ℕ) {t r : List ℕ} {f : List ℕ × List ℕ}
    (h : Field t f r) : member (scanOnce s depth) t = .ok ((f.1, .str f.2), r) := by
  obtain ⟨a, b, c, d, rfl, hname, hcolon, hquote, hvalue⟩ := h
  refine member_ok.mpr ⟨quote :: d, scanName_ok.mpr ⟨a, b, c, rfl, hname, ?_, ?_⟩,
    scanOnce_string depth hvalue⟩
  · exact skipSpace_of_ws hcolon (skipSpace_cons isSpace_tokens.2.1 c)
  · exact (skipSpace_of_ws hquote (skipSpace_cons isSpace_tokens.1 d)).symm

/-- Fields start with the quote of a name. -/
theorem Fields.starts {t r : List ℕ} {fs : List (List ℕ × List ℕ)} (h : Fields t fs r) :
    ∃ a, t = quote :: a := by
  obtain ⟨⟨a, _, _, _, rfl, -⟩, -⟩ | ⟨⟨a, _, _, _, rfl, -⟩, -⟩ := h <;> exact ⟨a, rfl⟩

/-- Nothing is skipped before fields, for they start with a quote. -/
theorem Fields.skipSpace_eq {t r : List ℕ} {fs : List (List ℕ × List ℕ)} (h : Fields t fs r) :
    skipSpace t = t := by
  obtain ⟨a, rfl⟩ := h.starts
  exact skipSpace_cons isSpace_tokens.1 a

/-- … and so are all fields of an object. -/
theorem separated_of_fields {s : Settings ε} (depth : ℕ) {t r : List ℕ}
    {fs : List (List ℕ × List ℕ)} (h : Fields t fs r) {n : ℕ} (hn : t.length ≤ n) :
    separated (member (scanOnce s depth)) closeBrace n t = .ok (strValues fs, r) := by
  induction h generalizing n with
  | @last t r u f hfield hclose =>
    have hlen := hfield.length_lt
    obtain ⟨m, rfl⟩ : ∃ k, n = k + 1 := ⟨n - 1, by omega⟩
    exact separated_ok.mpr ⟨_, r, member_of_field depth hfield, .inl ⟨u,
      skipSpace_of_ws hclose (skipSpace_cons isSpace_tokens.2.2.2.2 u), rfl, rfl⟩⟩
  | @more t r a b u f fs hfield hcomma hws hfields ih =>
    have hlen := hfield.length_lt
    obtain ⟨m, rfl⟩ : ∃ k, n = k + 1 := ⟨n - 1, by omega⟩
    have hskip : skipSpace a = b := skipSpace_of_ws hws hfields.skipSpace_eq
    have hb : b.length ≤ m := by
      have h1 := length_skipSpace_le a
      obtain ⟨w, -, rfl⟩ := hcomma
      simp only [hskip, List.length_append, List.length_cons] at h1 hlen
      omega
    refine separated_ok.mpr ⟨_, r, member_of_field depth hfield, .inr ⟨a, strValues fs, ?_, ?_, ?_,
      rfl⟩⟩
    · exact skipSpace_of_ws hcomma (skipSpace_cons isSpace_tokens.2.2.1 a)
    · exact comma_ne_close.1
    · rw [hskip]
      exact ih hb

/-- **An object of strings is read**: the hook gets its fields. -/
theorem loads_of_objectText {s : Settings ε} {text : List ℕ} {fs : List (List ℕ × List ℕ)}
    (h : ObjectText text fs) :
    loads s text = (s.pairsHook (strValues fs)).mapError .hook := by
  obtain ⟨a, b, r, hopen, hfields, hend⟩ := h
  obtain ⟨depth, hdepth⟩ : ∃ k, s.recursionLimit = k + 1 :=
    ⟨s.recursionLimit - 1, by have := s.recursionLimit_pos; omega⟩
  have hcontainer : container (member (scanOnce s depth)) closeBrace a = .ok (strValues fs, r) := by
    rcases hfields with ⟨rfl, hclose⟩ | ⟨hws, hfields⟩
    · exact container_ok.mpr (.inl ⟨skipSpace_of_ws hclose
        (skipSpace_cons isSpace_tokens.2.2.2.2 r), rfl⟩)
    · have hskip : skipSpace a = b := skipSpace_of_ws hws hfields.skipSpace_eq
      have hread := separated_of_fields (s := s) depth hfields le_rfl
      obtain ⟨u, rfl⟩ := hfields.starts
      exact container_ok.mpr (.inr ⟨quote, u, hskip, by decide, hread⟩)
  have hstart := skipSpace_of_ws hopen (skipSpace_cons isSpace_tokens.2.2.2.1 a)
  have hlast : skipSpace r = [] := skipSpace_of_ws hend rfl
  simp only [loads, hstart, hdepth, scanOnce, if_true, hcontainer, bind, Except.bind]
  cases s.pairsHook (strValues fs) with
  | error e => rfl
  | ok v => simp only [Except.mapError, pure, Except.pure, hlast, if_true]

/-- A hook that gives an object of the fields it gets, or raises. -/
def KeepsFields (s : Settings ε) : Prop := ∀ fs v, s.pairsHook fs = .ok v → v = .obj fs

/-- What is neither a string nor an object. -/
def Other (v : Value) : Prop := (∀ u, v ≠ .str u) ∧ ∀ fs, v ≠ .obj fs

/-- A keyword is no string. -/
theorem scanKeyword_other {t r : List ℕ} {v : Value} (h : scanKeyword t = some (v, r)) :
    Other v := by
  obtain ⟨⟨word, v'⟩, hmem, h⟩ := List.exists_of_findSome?_eq_some h
  dsimp only at h
  split_ifs at h
  cases h
  revert hmem
  simp only [keywords, List.mem_cons, Prod.mk.injEq, List.not_mem_nil, or_false]
  rintro (⟨-, rfl⟩ | ⟨-, rfl⟩ | ⟨-, rfl⟩ | ⟨-, rfl⟩ | ⟨-, rfl⟩ | ⟨-, rfl⟩) <;> simp [Other]

/-- A number is no string. -/
theorem scanNumber_other {s : Settings ε} {t r : List ℕ} {v : Value}
    (h : scanNumber s t = .ok (v, r)) : Other v := by
  unfold scanNumber at h
  dsimp only at h
  split at h
  · cases h
  · split_ifs at h <;> cases h <;> simp [Other]

/-- A value without parts is a string that the grammar has, or something else than a string. -/
theorem scanLeaf_ok {s : Settings ε} {t r : List ℕ} {v : Value} (h : scanLeaf s t = .ok (v, r)) :
    (∃ a u, v = .str u ∧ t = quote :: a ∧ StringText a u r) ∨ Other v := by
  cases t with
  | nil => cases h
  | cons c rest =>
    simp only [scanLeaf] at h
    split_ifs at h with hc
    · obtain ⟨⟨u, r'⟩, hu, heq⟩ := Raising.map_ok h
      cases heq
      exact .inl ⟨rest, u, rfl, by rw [hc], scanString_ok.mp hu⟩
    · split at h
      · rename_i found hfound
        cases h
        exact .inr (scanKeyword_other hfound)
      · exact .inr (scanNumber_other h)

/-- What a value is read off. -/
theorem scanOnce_ok {s : Settings ε} (hs : KeepsFields s) {depth : ℕ} {t r : List ℕ} {v : Value}
    (h : scanOnce s depth t = .ok (v, r)) :
    (∃ a u, v = .str u ∧ t = quote :: a ∧ StringText a u r) ∨
      (∃ d a fs, v = .obj fs ∧ s.pairsHook fs = .ok (.obj fs) ∧ t = openBrace :: a ∧
        container (member (scanOnce s d)) closeBrace a = .ok (fs, r)) ∨ Other v := by
  have hleaf : ∀ {t : List ℕ}, scanLeaf s t = .ok (v, r) →
      (∃ a u, v = .str u ∧ t = quote :: a ∧ StringText a u r) ∨
        (∃ d a fs, v = .obj fs ∧ s.pairsHook fs = .ok (.obj fs) ∧ t = openBrace :: a ∧
          container (member (scanOnce s d)) closeBrace a = .ok (fs, r)) ∨ Other v :=
    fun h => (scanLeaf_ok h).imp_right .inr
  cases t with
  | nil =>
    rw [scanOnce] at h
    cases h
  | cons c rest =>
    cases depth with
    | zero =>
      simp only [scanOnce] at h
      split_ifs at h
      exact hleaf h
    | succ depth =>
      simp only [scanOnce] at h
      split_ifs at h with hbrace hbracket
      -- an object: the hook keeps its fields
      · obtain ⟨⟨fs, r'⟩, hfields, h⟩ := Raising.bind_ok h
        obtain ⟨v', hhook, h⟩ := Raising.bind_ok h
        cases h
        have hok := Raising.mapError_ok.mp hhook
        obtain rfl := hs fs _ hok
        exact .inr (.inl ⟨depth, rest, fs, rfl, hok, by rw [hbrace], hfields⟩)
      · obtain ⟨⟨items, r'⟩, -, heq⟩ := Raising.map_ok h
        cases heq
        exact .inr (.inr ⟨by simp, by simp⟩)
      · exact hleaf h

/-- A member whose value is a string is a field. -/
theorem field_of_member {s : Settings ε} (hs : KeepsFields s) {depth : ℕ} {t r : List ℕ}
    {f : List ℕ × List ℕ} (h : member (scanOnce s depth) t = .ok ((f.1, .str f.2), r)) :
    Field t f r := by
  obtain ⟨u, hname, hvalue⟩ := member_ok.mp h
  obtain ⟨a, b, c, rfl, htext, hcolon, rfl⟩ := scanName_ok.mp hname
  obtain ⟨d, v, hv, hd, hstring⟩ | ⟨_, _, _, hv, -⟩ | hother := scanOnce_ok hs hvalue
  · cases hv
    exact ⟨a, b, c, d, rfl, htext, ws_of_skipSpace hcolon, ws_of_skipSpace hd, hstring⟩
  · cases hv
  · exact absurd rfl (hother.1 f.2)

/-- Members whose values are all strings are fields: by the recursion of the scanner. -/
theorem fields_of_separated {s : Settings ε} (hs : KeepsFields s) {depth n : ℕ} {t r : List ℕ}
    {fs : List (List ℕ × List ℕ)}
    (h : separated (member (scanOnce s depth)) closeBrace n t = .ok (strValues fs, r)) :
    Fields t fs r := by
  induction n generalizing t fs with
  | zero => cases h
  | succ n ih =>
    obtain ⟨x, u, hx, hrest⟩ := separated_ok.mp h
    cases fs with
    | nil => rcases hrest with ⟨_, -, hnil, -⟩ | ⟨_, _, -, -, -, hnil⟩ <;> cases hnil
    | cons f fs =>
      rcases hrest with ⟨d, hd, heq, rfl⟩ | ⟨d, ys, hd, -, hys, heq⟩
      · obtain ⟨rfl, hfs⟩ := List.cons.inj heq
        obtain rfl : fs = [] := List.map_eq_nil_iff.mp hfs
        exact .last (field_of_member hs hx) (ws_of_skipSpace hd)
      · obtain ⟨rfl, rfl⟩ := List.cons.inj heq
        exact .more (field_of_member hs hx) (ws_of_skipSpace hd) (ws_skipSpace d) (ih hys)

/-- **What is read as an object of strings is one.** -/
theorem objectText_of_loads {s : Settings ε} (hs : KeepsFields s) {text : List ℕ}
    {fs : List (List ℕ × List ℕ)} (h : loads s text = .ok (.obj (strValues fs))) :
    ObjectText text fs := by
  obtain ⟨⟨v, r⟩, hv, h⟩ := Raising.bind_ok h
  dsimp only at h
  split_ifs at h with hend
  obtain rfl := Except.ok.inj h
  obtain ⟨_, _, hstr, -⟩ | ⟨d, a, fs', hobj, -, ha, hfields⟩ | hother := scanOnce_ok hs hv
  · cases hstr
  · obtain rfl := Value.obj.inj hobj
    refine ⟨a, skipSpace a, r, ws_of_skipSpace ha, ?_, ws_of_skipSpace hend⟩
    rcases container_ok.mp hfields with ⟨hclose, hnil⟩ | ⟨c, u, hu, -, hsep⟩
    · exact .inl ⟨List.map_eq_nil_iff.mp hnil, ws_of_skipSpace hclose⟩
    · refine .inr ⟨ws_skipSpace a, ?_⟩
      rw [hu]
      exact fields_of_separated hs hsep
  · exact absurd rfl (hother.2 _)

/-- The hook let the fields of the object pass. -/
theorem pairsHook_of_loads {s : Settings ε} (hs : KeepsFields s) {text : List ℕ}
    {fs : List (List ℕ × Value)} (h : loads s text = .ok (.obj fs)) :
    s.pairsHook fs = .ok (.obj fs) := by
  obtain ⟨⟨v, r⟩, hv, h⟩ := Raising.bind_ok h
  dsimp only at h
  split_ifs at h
  obtain rfl := Except.ok.inj h
  obtain ⟨_, _, hstr, -⟩ | ⟨_, _, fs', hobj, hhook, -⟩ | hother := scanOnce_ok hs hv
  · cases hstr
  · obtain rfl := Value.obj.inj hobj
    exact hhook
  · exact absurd rfl (hother.2 _)

/-- The names of the fields are theirs as members. -/
theorem strValues_names (fs : List (List ℕ × List ℕ)) :
    (strValues fs).map Prod.fst = fs.map Prod.fst := by
  rw [strValues, List.map_map]
  rfl

/-- The texts of the fields are theirs as members. -/
theorem mem_strValues {fs : List (List ℕ × List ℕ)} {n u : List ℕ} :
    (n, .str u) ∈ strValues fs ↔ (n, u) ∈ fs := by
  simp [strValues]

/-- Fields whose values are all strings. -/
theorem exists_strValues {fs : List (List ℕ × Value)} (h : ∀ f ∈ fs, ∃ u, f.2 = .str u) :
    ∃ gs, fs = strValues gs := by
  induction fs with
  | nil => exact ⟨[], rfl⟩
  | cons f fs ih =>
    obtain ⟨u, hu⟩ := h f List.mem_cons_self
    obtain ⟨gs, rfl⟩ := ih fun g hg => h g (List.mem_cons_of_mem f hg)
    refine ⟨(f.1, u) :: gs, ?_⟩
    simp only [strValues, List.map_cons, ← hu]

/-! ## The characters of such a text -/

/-- White space is ASCII. -/
theorem isSpace_ascii {c : ℕ} (h : isSpace c = true) : 0 < c ∧ c < 128 := by
  unfold isSpace at h
  simp only [Bool.or_eq_true, decide_eq_true_eq] at h
  omega

/-- Hexadecimal digits are ASCII. -/
theorem hexDigit_ascii {c w : ℕ} (h : hexDigit c = some w) : c < 128 := by
  unfold hexDigit at h
  split_ifs at h <;> omega

/-- The four digits of an escaped code unit are ASCII. -/
theorem hexUnit_ascii {h1 h2 h3 h4 u : ℕ} (h : hexUnit h1 h2 h3 h4 = some u) :
    h1 < 128 ∧ h2 < 128 ∧ h3 < 128 ∧ h4 < 128 := by
  unfold hexUnit at h
  split at h
  · rename_i hw hx hy hz
    exact ⟨hexDigit_ascii hw, hexDigit_ascii hx, hexDigit_ascii hy, hexDigit_ascii hz⟩
  · cases h

/-- The letters of the short escapes are ASCII. -/
theorem escape_ascii {e x : ℕ} (h : escape e = some x) : e < 128 := by
  unfold escape at h
  split_ifs at h <;> omega

/-- A character that stands in a string as it is belongs to its text. -/
theorem mem_joinUnits {c : ℕ} {p : List Piece} (h : .char c ∈ p) : c ∈ joinUnits p := by
  fun_induction joinUnits p with
  | case1 => cases h
  | case2 d rest ih =>
    rcases List.mem_cons.mp h with heq | h
    · cases heq
      exact List.mem_cons_self
    · exact List.mem_cons_of_mem d (ih h)
  | case3 => simp at h
  | case4 u d rest ih =>
    simp only [List.mem_cons, Piece.char.injEq, reduceCtorEq, false_or] at h ⊢
    exact .inr (h.imp_right ih)
  | case5 u v rest hpair ih =>
    simp only [List.mem_cons, reduceCtorEq, false_or] at h
    exact List.mem_cons_of_mem _ (ih h)
  | case6 u v rest hpair ih =>
    simp only [List.mem_cons, reduceCtorEq, false_or] at h
    exact List.mem_cons_of_mem _ (ih (List.mem_cons_of_mem _ h))

section Characters

variable {P : ℕ → Prop}

/-- What holds of ASCII characters and of the rest holds of white space before the rest. -/
theorem Ws.forall {s r : List ℕ} (hascii : ∀ c < 128, P c) (h : Ws s r) (hr : ∀ c ∈ r, P c) :
    ∀ c ∈ s, P c := by
  obtain ⟨w, hw, rfl⟩ := h
  intro c hc
  rcases List.mem_append.mp hc with hc | hc
  · exact hascii c (isSpace_ascii (hw c hc)).2
  · exact hr c hc

/-- What holds of an ASCII character and of the rest holds of both. -/
theorem forall_cons {c : ℕ} {s : List ℕ} (hc : P c) (hs : ∀ d ∈ s, P d) : ∀ d ∈ c :: s, P d := by
  simpa using ⟨hc, hs⟩

/-- What holds of ASCII characters and of those written as themselves holds of the body of a string.
    -/
theorem StringBody.forall {s r : List ℕ} {p : List Piece} (hascii : ∀ c < 128, P c)
    (h : StringBody s p r) (hp : ∀ c, .char c ∈ p → P c) (hr : ∀ c ∈ r, P c) : ∀ c ∈ s, P c := by
  induction h with
  | close => exact forall_cons (hascii quote (by decide)) hr
  | char _ _ _ _ ih =>
    exact forall_cons (hp _ List.mem_cons_self)
      (ih (fun c hc => hp c (List.mem_cons_of_mem _ hc)) hr)
  | escape he _ ih =>
    exact forall_cons (hascii backslash (by decide)) (forall_cons (hascii _ (escape_ascii he))
      (ih (fun c hc => hp c (List.mem_cons_of_mem _ hc)) hr))
  | unit hu _ ih =>
    obtain ⟨h1, h2, h3, h4⟩ := hexUnit_ascii hu
    exact forall_cons (hascii backslash (by decide)) (forall_cons (hascii 117 (by decide))
      (forall_cons (hascii _ h1) (forall_cons (hascii _ h2) (forall_cons (hascii _ h3)
        (forall_cons (hascii _ h4)
          (ih (fun c hc => hp c (List.mem_cons_of_mem _ hc)) hr))))))

/-- What holds of the text read from a string, and of ASCII characters, holds of the string. -/
theorem StringText.forall {s t r : List ℕ} (hascii : ∀ c < 128, P c) (h : StringText s t r)
    (ht : ∀ c ∈ t, P c) (hr : ∀ c ∈ r, P c) : ∀ c ∈ s, P c := by
  obtain ⟨p, hbody, rfl⟩ := h
  exact hbody.forall hascii (fun c hc => ht c (mem_joinUnits hc)) hr

/-- What holds of the two texts of a field holds of the field. -/
theorem Field.forall {t r : List ℕ} {f : List ℕ × List ℕ} (hascii : ∀ c < 128, P c)
    (h : Field t f r) (hf : (∀ c ∈ f.1, P c) ∧ ∀ c ∈ f.2, P c) (hr : ∀ c ∈ r, P c) :
    ∀ c ∈ t, P c := by
  obtain ⟨a, b, c, d, rfl, hname, hcolon, hquote, hvalue⟩ := h
  have hq := hascii quote (by decide)
  exact forall_cons hq (hname.forall hascii hf.1 (hcolon.forall hascii
    (forall_cons (hascii colon (by decide)) (hquote.forall hascii
      (forall_cons hq (hvalue.forall hascii hf.2 hr))))))

/-- What holds of the texts of all fields holds of them as they are written. -/
theorem Fields.forall {t r : List ℕ} {fs : List (List ℕ × List ℕ)} (hascii : ∀ c < 128, P c)
    (h : Fields t fs r) (hfs : ∀ f ∈ fs, (∀ c ∈ f.1, P c) ∧ ∀ c ∈ f.2, P c)
    (hr : ∀ c ∈ r, P c) : ∀ c ∈ t, P c := by
  induction h with
  | last hfield hclose =>
    exact hfield.forall hascii (hfs _ List.mem_cons_self)
      (hclose.forall hascii (forall_cons (hascii closeBrace (by decide)) hr))
  | more hfield hcomma hws _ ih =>
    exact hfield.forall hascii (hfs _ List.mem_cons_self) (hcomma.forall hascii
      (forall_cons (hascii comma (by decide)) (hws.forall hascii
        (ih (fun f hf => hfs f (List.mem_cons_of_mem _ hf)) hr))))

/-- **What holds of ASCII and of the strings of an object holds of its text.** -/
theorem ObjectText.forall {text : List ℕ} {fs : List (List ℕ × List ℕ)}
    (hascii : ∀ c < 128, P c) (h : ObjectText text fs)
    (hfs : ∀ f ∈ fs, (∀ c ∈ f.1, P c) ∧ ∀ c ∈ f.2, P c) : ∀ c ∈ text, P c := by
  obtain ⟨a, b, r, hopen, hfields, hend⟩ := h
  have hr : ∀ c ∈ r, P c := hend.forall hascii fun c hc => absurd hc List.not_mem_nil
  refine hopen.forall hascii (forall_cons (hascii openBrace (by decide)) ?_)
  rcases hfields with ⟨-, hclose⟩ | ⟨hws, hfields⟩
  · exact hclose.forall hascii (forall_cons (hascii closeBrace (by decide)) hr)
  · exact hws.forall hascii (hfields.forall hascii hfs hr)

end Characters

/-- The first character is ASCII, be it white space or what follows. -/
theorem Ws.head_ascii {s r : List ℕ} {q : ℕ} (h : Ws s (q :: r)) (hq : 0 < q ∧ q < 128) :
    ∃ c s', s = c :: s' ∧ 0 < c ∧ c < 128 := by
  obtain ⟨w, hw, rfl⟩ := h
  cases w with
  | nil => exact ⟨q, r, rfl, hq⟩
  | cons c w => exact ⟨c, w ++ q :: r, rfl, isSpace_ascii (hw c List.mem_cons_self)⟩

/-- An object starts with two ASCII characters. -/
theorem ObjectText.starts {text : List ℕ} {fs : List (List ℕ × List ℕ)} (h : ObjectText text fs) :
    ∃ a b rest, text = a :: b :: rest ∧ (0 < a ∧ a < 128) ∧ 0 < b ∧ b < 128 := by
  obtain ⟨a, b, r, ⟨w, hw, rfl⟩, hfields, -⟩ := h
  have hbrace : 0 < openBrace ∧ openBrace < 128 := by decide
  have ha : ∃ c s', a = c :: s' ∧ 0 < c ∧ c < 128 := by
    rcases hfields with ⟨-, hclose⟩ | ⟨hws, hfields⟩
    · exact hclose.head_ascii (by decide)
    · obtain ⟨u, rfl⟩ := hfields.starts
      exact hws.head_ascii (by decide)
  obtain ⟨c, s', rfl, hc⟩ := ha
  match w with
  | [] => exact ⟨openBrace, c, s', rfl, hbrace, hc⟩
  | [x] => exact ⟨x, openBrace, c :: s', rfl, isSpace_ascii (hw x List.mem_cons_self), hbrace⟩
  | x :: y :: w =>
    exact ⟨x, y, w ++ openBrace :: c :: s', rfl, isSpace_ascii (hw x List.mem_cons_self),
      isSpace_ascii (hw y (List.mem_cons_of_mem x List.mem_cons_self))⟩

end AEControl.JsonText
