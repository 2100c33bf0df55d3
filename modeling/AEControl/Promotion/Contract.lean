/-
  The contract of the promotion token, and where `parse_promotion_token` keeps it.

  `IsToken` is the contract: base64 of UTF-8 of a JSON object of the six fields, with ASCII digits.
  The parser is more lenient in three ways (padding that `binascii` ignores, the other encodings of
  `json.loads`, the digits of `str.isdigit`), and what `json.loads` raises for a limit passes its
  handlers.  `exact_iff` says that these are all the differences; the crux is `IsToken.reads`, that
  a token of the contract comes through every check.
-/
import AEControl.Promotion.Token

namespace AEControl.Promotion

open Unicode JsonText

/-- The text is a token: what the documentation asks of one. -/
def IsToken (env : Interpreter) (raw : List ℕ) : Prop :=
  ∃ decoded text t, (raw ≠ [] ∧ raw.length ≤ maxPromotionTokenBytes) ∧
    Base64.Encodes raw decoded ∧ decoded.length ≤ maxDecodedTokenBytes ∧
    (∀ c ∈ text, IsScalar c) ∧ decoded = encodeUtf8 text ∧
    TokenDocument env JsonText.isDigit text t

/-- The parser returns a token for the tokens only, and raises `PromotionError` only. -/
def Exact (env : Interpreter) (raw : List ℕ) : Prop :=
  ((∃ token, parsePromotionToken env raw = .ok token) ↔ IsToken env raw) ∧
    ∀ e, parsePromotionToken env raw = .error e → ∃ m, e = .promotion m

/-- The decimal identifiers of a token are ASCII. -/
def AsciiDigits (t : TokenTexts) : Prop :=
  (∀ c ∈ t.latestCheckpointTimelineId, c < 128) ∧ ∀ c ∈ t.databaseSystemIdentifier, c < 128

/-- No difference between the parser and the contract shows: `json.loads` meets no limit in the
    text, and a token document is plain UTF-8 in plain base64, with ASCII digits. -/
def Plain (env : Interpreter) (raw : List ℕ) : Prop :=
  ∀ decoded text, Reads env raw decoded text →
    ¬ LimitMet (settings env) text ∧
      ∀ t, TokenDocument env env.isDigit text t →
        ¬ Base64.ExcessPadding raw ∧ detectEncoding decoded = .utf8 false ∧ AsciiDigits t

theorem Reads.unique {env : Interpreter} {raw decoded decoded' text text' : List ℕ}
    (h : Reads env raw decoded text) (h' : Reads env raw decoded' text') :
    decoded = decoded' ∧ text = text' := by
  obtain rfl : decoded = decoded' := Option.some.inj (h.base64.symm.trans h'.base64)
  exact ⟨rfl, Option.some.inj (h.decodes.symm.trans h'.decodes)⟩

theorem TokenDocument.valid {env : Interpreter} {digit : ℕ → Bool} {text : List ℕ}
    {t : TokenTexts} (h : TokenDocument env digit text t) : t.Valid env digit := by
  obtain ⟨_, -, -, hvalid⟩ := h
  exact hvalid

theorem TokenDocument.parse {env : Interpreter} {text : List ℕ} {t : TokenTexts}
    (h : TokenDocument env env.isDigit text t) : parseText env text = .ok ⟨t, h.valid⟩ :=
  parseText_ok.mpr h

/-- A text is the document of one token. -/
theorem TokenDocument.unique {env : Interpreter} {text : List ℕ} {t t' : TokenTexts}
    (h : TokenDocument env env.isDigit text t) (h' : TokenDocument env env.isDigit text t') :
    t = t' :=
  congrArg PromotionToken.toTokenTexts (Except.ok.inj (h.parse.symm.trans h'.parse))

/-- With ASCII digits the digits of `str.isdigit` are the decimal ones. -/
theorem valid_ascii {env : Interpreter} {t : TokenTexts} :
    t.Valid env JsonText.isDigit ↔ t.Valid env env.isDigit ∧ AsciiDigits t := by
  have hascii : ∀ c, JsonText.isDigit c = true → c < 128 := by
    intro c hc
    simp only [JsonText.isDigit, Bool.and_eq_true, decide_eq_true_eq] at hc
    omega
  have hdigit : ∀ {c}, JsonText.isDigit c = true ↔ env.isDigit c = true ∧ c < 128 := by
    intro c
    constructor
    · intro hc
      rw [env.isDigit_ascii c (hascii c hc)]
      exact ⟨hc, hascii c hc⟩
    · rintro ⟨hc, hlt⟩
      rwa [env.isDigit_ascii c hlt] at hc
  constructor
  · rintro ⟨htimeline, hwal, hsystem, hlocation, htime, hversion⟩
    exact ⟨⟨⟨htimeline.1, fun c hc => (hdigit.mp (htimeline.2 c hc)).1⟩, hwal,
      ⟨hsystem.1, fun c hc => (hdigit.mp (hsystem.2 c hc)).1⟩, hlocation, htime, hversion⟩,
      fun c hc => hascii c (htimeline.2 c hc), fun c hc => hascii c (hsystem.2 c hc)⟩
  · rintro ⟨⟨htimeline, hwal, hsystem, hlocation, htime, hversion⟩, ht, hs⟩
    exact ⟨⟨htimeline.1, fun c hc => hdigit.mpr ⟨htimeline.2 c hc, ht c hc⟩⟩, hwal,
      ⟨hsystem.1, fun c hc => hdigit.mpr ⟨hsystem.2 c hc, hs c hc⟩⟩, hlocation, htime, hversion⟩

theorem document_ascii {env : Interpreter} {text : List ℕ} {t : TokenTexts} :
    TokenDocument env JsonText.isDigit text t ↔
      TokenDocument env env.isDigit text t ∧ AsciiDigits t := by
  simp only [TokenDocument, valid_ascii, ← and_assoc, exists_and_right]

/-! ## A token comes through -/

theorem strip_eq_self {text : List ℕ} (h : ∀ c ∈ text, 32 < c) : strip text = text := by
  have hspace : ∀ c, 32 < c → isAsciiSpace c = false := by
    intro c hc
    simp only [isAsciiSpace, Bool.or_eq_false_iff, Bool.and_eq_false_iff, decide_eq_false_iff_not]
    omega
  have hdrop : ∀ l : List ℕ, (∀ c ∈ l, 32 < c) → l.dropWhile isAsciiSpace = l := by
    intro l hl
    cases l with
    | nil => rfl
    | cons c l =>
      exact List.dropWhile_cons_of_neg (by simp [hspace c (hl c List.mem_cons_self)])
  rw [strip, hdrop text h, hdrop text.reverse fun c hc => h c (List.mem_reverse.mp hc),
    List.reverse_reverse]

/-- **A token of the contract comes through every check**, and shows none of the differences. -/
theorem IsToken.reads {env : Interpreter} {raw : List ℕ} (h : IsToken env raw) :
    ∃ decoded text t, Reads env raw decoded text ∧ TokenDocument env env.isDigit text t ∧
      ¬ Base64.ExcessPadding raw ∧ detectEncoding decoded = .utf8 false ∧ AsciiDigits t := by
  obtain ⟨decoded, text, t, hsize, hbase64, hdecoded, hscalar, rfl, hdoc⟩ := h
  obtain ⟨hdoc, hdigits⟩ := document_ascii.mp hdoc
  have hplain : detectEncoding (encodeUtf8 text) = .utf8 false := by
    obtain ⟨fs, htext, -⟩ := hdoc
    obtain ⟨a, b, rest, rfl, ha, hb⟩ := htext.starts
    rw [encodeUtf8_cons, encodeUtf8_cons, utf8Char_ascii ha.2, utf8Char_ascii hb.2]
    exact detectEncoding_ascii ha hb _
  have hdecodes : decodeDetected (encodeUtf8 text) = some text := by
    rw [decodeDetected, hplain]
    exact decodeUtf8_encodeUtf8 fun c hc => (hscalar c hc).le
  have hascii : raw.any (128 ≤ ·) = false := by
    simp only [List.any_eq_false, decide_eq_true_eq, not_le]
    exact fun c hc => ((hbase64.alphabet c hc).2).trans (by decide)
  exact ⟨encodeUtf8 text, text, t, ⟨hascii, hsize,
    strip_eq_self fun c hc => (hbase64.alphabet c hc).1,
    Base64.a2bBase64_of_encodes env.excessPadding hbase64, hdecoded, hdecodes⟩, hdoc,
    Base64.not_excessPadding hbase64, hplain, hdigits⟩

/-- The characters of a token document are no surrogates. -/
theorem TokenDocument.scalar {env : Interpreter} {text : List ℕ} {t : TokenTexts}
    (h : TokenDocument env env.isDigit text t) : ∀ c ∈ text, IsScalar c := by
  obtain ⟨fs, htext, hperm, hvalid⟩ := h
  have hascii : ∀ c < 128, IsScalar c := fun c hc => .inl (by omega)
  have hhex : ∀ c, isUpperHex c = true → IsScalar c := by
    intro c hc
    refine hascii c ?_
    simp only [isUpperHex, Bool.or_eq_true, Bool.and_eq_true, decide_eq_true_eq] at hc
    omega
  have hnames : ∀ n ∈ tokenFields, ∀ c ∈ n, c < 128 := by decide
  have hlocation : ∀ c ∈ t.latestCheckpointRedoLocation, IsScalar c := by
    obtain ⟨a, b, heq, -, -, hall⟩ := hvalid.location
    rw [heq]
    intro c hc
    rcases List.mem_append.mp hc with hc | hc
    · exact hhex c (hall c (List.mem_append_left b hc))
    rcases List.mem_cons.mp hc with rfl | hc
    · exact hascii 47 (by decide)
    · exact hhex c (hall c (List.mem_append_right a hc))
  have hvalues : ∀ f ∈ t.fields, ∀ c ∈ f.2, IsScalar c := by
    simp only [TokenTexts.fields, List.forall_mem_cons, List.not_mem_nil, false_implies,
      implies_true, and_true]
    exact ⟨fun c hc => env.isDigit_scalar c (hvalid.timeline.2 c hc),
      fun c hc => hhex c (hvalid.wal.2 c hc),
      fun c hc => env.isDigit_scalar c (hvalid.system.2 c hc), hlocation,
      fun c hc => env.isPrintable_scalar c (hvalid.time.2.2 c hc),
      fun c hc => env.isPrintable_scalar c (hvalid.version.2.2 c hc)⟩
  refine htext.forall hascii fun f hf => ?_
  have hmem := hperm.mem_iff.mp hf
  have hname : f.1 ∈ tokenFields := t.fields_names ▸ List.mem_map_of_mem hmem
  exact ⟨fun c hc => hascii c (hnames f.1 hname c hc), hvalues f hmem⟩

/-- What comes through without a difference is a token of the contract. -/
theorem isToken_of_reads {env : Interpreter} {raw decoded text : List ℕ} {t : TokenTexts}
    (hreads : Reads env raw decoded text) (hdoc : TokenDocument env env.isDigit text t)
    (hpad : ¬ Base64.ExcessPadding raw) (hplain : detectEncoding decoded = .utf8 false)
    (hdigits : AsciiDigits t) : IsToken env raw := by
  have hbase64 : Base64.Encodes raw decoded :=
    (Base64.a2bBase64_some hreads.base64).resolve_right fun h => hpad h.2
  exact ⟨decoded, text, t, hreads.size, hbase64, hreads.decodedSize, hdoc.scalar,
    (decodeDetected_utf8 hplain hreads.decodes).1, document_ascii.mpr ⟨hdoc, hdigits⟩⟩

/-! ## Where the parser keeps the contract -/

/-- **The parser accepts exactly the tokens and raises `PromotionError` only, exactly where none of
    the differences shows.** -/
theorem exact_iff (env : Interpreter) (raw : List ℕ) : Exact env raw ↔ Plain env raw := by
  constructor
  · rintro ⟨haccepts, hraises⟩ decoded text hreads
    constructor
    · intro hlimit
      obtain ⟨e, herror, he⟩ := parseText_escapes.mpr hlimit
      obtain ⟨m, hm⟩ := hraises e (hreads.parse_eq.trans herror)
      exact he m hm
    · intro t hdoc
      obtain ⟨decoded', text', t', hreads', hdoc', hshows⟩ :=
        (haccepts.mp ⟨_, hreads.parse_eq.trans hdoc.parse⟩).reads
      obtain ⟨rfl, rfl⟩ := hreads.unique hreads'
      obtain rfl := hdoc.unique hdoc'
      exact hshows
  · intro hplain
    refine ⟨⟨?_, ?_⟩, ?_⟩
    · rintro ⟨token, hok⟩
      rcases parse_cases env raw with ⟨m, herror⟩ | ⟨decoded, text, hreads⟩
      · rw [herror] at hok
        cases hok
      · have hdoc := parseText_ok.mp (hreads.parse_eq.symm.trans hok)
        obtain ⟨hpad, hutf8, hdigits⟩ := (hplain decoded text hreads).2 _ hdoc
        exact isToken_of_reads hreads hdoc hpad hutf8 hdigits
    · intro htoken
      obtain ⟨decoded, text, t, hreads, hdoc, -⟩ := htoken.reads
      exact ⟨_, hreads.parse_eq.trans hdoc.parse⟩
    · intro e herror
      -- what is no text of JSON raises `PromotionError`
      rcases parse_cases env raw with ⟨m, hm⟩ | ⟨decoded, text, hreads⟩
      · exact ⟨m, Except.error.inj (herror.symm.trans hm)⟩
      · by_contra hother
        have he : ∀ m, e ≠ .promotion m := fun m hm => hother ⟨m, hm⟩
        exact (hplain decoded text hreads).1
          (parseText_escapes.mp ⟨e, hreads.parse_eq.symm.trans herror, he⟩)

/-! ## A token with another digit -/

/-- The ASCII digits and the Arabic-Indic ones, which are digits of the Unicode tables too. -/
def sampleDigit (c : ℕ) : Bool := JsonText.isDigit c || (0x660 ≤ c && c ≤ 0x669)

/-- The printable characters of ASCII. -/
def samplePrintable (c : ℕ) : Bool := 32 ≤ c && c ≤ 126

theorem sampleDigit_ascii : ∀ c < 128, sampleDigit c = JsonText.isDigit c := by
  intro c hc
  have hlow : decide (0x660 ≤ c) = false := decide_eq_false (by omega)
  rw [sampleDigit, hlow, Bool.false_and, Bool.or_false]

theorem sampleDigit_scalar : ∀ c, sampleDigit c = true → IsScalar c := by
  intro c hc
  simp only [sampleDigit, JsonText.isDigit, Bool.or_eq_true, Bool.and_eq_true,
    decide_eq_true_eq] at hc
  exact .inl (by omega)

theorem samplePrintable_scalar : ∀ c, samplePrintable c = true → IsScalar c := by
  intro c hc
  simp only [samplePrintable, Bool.and_eq_true, decide_eq_true_eq] at hc
  exact .inl (by omega)

theorem sample_recursionLimit_pos : 0 < 1000 := Nat.succ_pos _

def sampleInterpreter : Interpreter where
  excessPadding := false
  recursionLimit := 1000
  digitLimit := 4300
  isDigit := sampleDigit
  isPrintable := samplePrintable
  recursionLimit_pos := sample_recursionLimit_pos
  isDigit_ascii := sampleDigit_ascii
  isDigit_scalar := sampleDigit_scalar
  isPrintable_scalar := samplePrintable_scalar

/-- The base64 of a token whose timeline is the Arabic-Indic seven. -/
def arabicToken : List ℕ :=
  [101, 121, 74, 115, 89, 88, 82, 108, 99, 51, 82, 68, 97, 71, 86, 106, 97, 51, 66, 118, 97, 87, 53,
    48, 86, 71, 108, 116, 90, 87, 120, 112, 98, 109, 86, 74, 82, 67, 73, 54, 73, 116, 109, 110, 73,
    105, 119, 105, 99, 109, 86, 107, 98, 49, 100, 104, 98, 69, 90, 112, 98, 71, 85, 105, 79, 105,
    73, 119, 77, 68, 65, 119, 77, 68, 65, 119, 77, 84, 65, 119, 77, 68, 65, 119, 77, 68, 65, 119,
    77, 68, 65, 119, 77, 68, 65, 119, 77, 68, 89, 105, 76, 67, 74, 107, 89, 88, 82, 104, 89, 109,
    70, 122, 90, 86, 78, 53, 99, 51, 82, 108, 98, 85, 108, 107, 90, 87, 53, 48, 97, 87, 90, 112, 90,
    88, 73, 105, 79, 105, 73, 51, 78, 68, 103, 120, 77, 106, 77, 48, 78, 84, 89, 51, 79, 68, 107,
    119, 77, 84, 73, 122, 78, 68, 85, 50, 73, 105, 119, 105, 98, 71, 70, 48, 90, 88, 78, 48, 81, 50,
    104, 108, 89, 50, 116, 119, 98, 50, 108, 117, 100, 70, 74, 70, 82, 69, 57, 77, 98, 50, 78, 104,
    100, 71, 108, 118, 98, 105, 73, 54, 73, 106, 65, 118, 78, 106, 65, 119, 77, 68, 65, 121, 79, 67,
    73, 115, 73, 110, 82, 112, 98, 87, 86, 80, 90, 107, 120, 104, 100, 71, 86, 122, 100, 69, 78,
    111, 90, 87, 78, 114, 99, 71, 57, 112, 98, 110, 81, 105, 79, 105, 74, 84, 89, 88, 81, 105, 76,
    67, 74, 118, 99, 71, 86, 121, 89, 88, 82, 118, 99, 108, 90, 108, 99, 110, 78, 112, 98, 50, 52,
    105, 79, 105, 73, 120, 73, 110, 48, 61]

/-- **The parser returns that token**: `str.isdigit` takes the Arabic-Indic seven for a digit, where
    a timeline identifier is written in ASCII ones. -/
theorem exact_fails_arabic : ¬ Exact sampleInterpreter arabicToken := by
  have htimeline : ((parsePromotionToken sampleInterpreter arabicToken).toOption.map
      fun token => token.latestCheckpointTimelineId) = some [0x667] := by decide +kernel
  rintro ⟨haccepts, -⟩
  cases hparse : parsePromotionToken sampleInterpreter arabicToken with
  | error e =>
    rw [hparse] at htimeline
    cases htimeline
  | ok token =>
    rw [hparse] at htimeline
    have htimeline : token.latestCheckpointTimelineId = [0x667] := Option.some.inj htimeline
    obtain ⟨decoded, text, t, hreads, hdoc, -, -, hdigits, -⟩ := (haccepts.mp ⟨token, hparse⟩).reads
    obtain rfl : PromotionToken.mk t hdoc.valid = token :=
      Except.ok.inj (hdoc.parse.symm.trans (hreads.parse_eq.symm.trans hparse))
    have hseven := hdigits 0x667 (by rw [htimeline]; exact List.mem_singleton_self _)
    omega

end AEControl.Promotion
