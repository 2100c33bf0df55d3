/-
  `promotion.py`: `PromotionToken`, `parse_promotion_token` and `load_promotion_token`.

  A token text goes through ASCII, base64, the octets' encoding, `json.loads` with a hook that
  refuses a repeated name, and the checks of the model.  Texts are lists of code points.

  1. **The token** — a `PromotionToken` carries the six patterns of its fields
     (`TokenTexts.Valid`); the model takes exactly the objects with these six strings
     (`modelValidate_ok`).

  2. **From the decoded text on** — the parser accepts the token documents, for the digits of
     `str.isdigit` (`parseText_ok`), and what else than `PromotionError` it raises is what
     `json.loads` raises for a limit (`parseText_escapes`).

  3. **Up to the decoded text** — every step but those of `Reads` ends in a `PromotionError`
     (`parse_cases`), and behind these the parser is that of the text (`Reads.parse_eq`).

  `Promotion/Contract` compares what comes through with the contract of the token.
-/
import Mathlib.Data.List.Perm.Basic
import AEControl.Lib.Dict
import AEControl.Lib.Base64
import AEControl.Lib.JsonObject

namespace AEControl.Promotion

open Unicode JsonText

/-- The code points of a text of the source. -/
def codePoints (s : String) : List ℕ := s.toList.map Char.toNat

/-- `MAX_PROMOTION_TOKEN_BYTES`. -/
def maxPromotionTokenBytes : ℕ := 16 * 1024

/-- `MAX_DECODED_TOKEN_BYTES`. -/
def maxDecodedTokenBytes : ℕ := 8 * 1024

/-- What of the interpreter the parser depends on: its limits, its `binascii`, and its tables for
    `str.isdigit` and `str.isprintable`, which no surrogate passes. -/
structure Interpreter where
  /-- `binascii` takes padding behind complete groups. -/
  excessPadding : Bool
  recursionLimit : ℕ
  digitLimit : ℕ
  isDigit : ℕ → Bool
  isPrintable : ℕ → Bool
  recursionLimit_pos : 0 < recursionLimit
  isDigit_ascii : ∀ c < 128, isDigit c = JsonText.isDigit c
  isDigit_scalar : ∀ c, isDigit c = true → IsScalar c
  isPrintable_scalar : ∀ c, isPrintable c = true → IsScalar c

/-! ## The token -/

/-- The fields of `PromotionToken`. -/
structure TokenTexts where
  latestCheckpointTimelineId : List ℕ
  redoWalFile : List ℕ
  databaseSystemIdentifier : List ℕ
  latestCheckpointRedoLocation : List ℕ
  timeOfLatestCheckpoint : List ℕ
  operatorVersion : List ℕ
  deriving DecidableEq

/-- `TOKEN_FIELDS`, in the order of the model's fields: the aliases. -/
def timelineField : List ℕ := codePoints "latestCheckpointTimelineID"
def walField : List ℕ := codePoints "redoWalFile"
def systemField : List ℕ := codePoints "databaseSystemIdentifier"
def locationField : List ℕ := codePoints "latestCheckpointREDOLocation"
def timeField : List ℕ := codePoints "timeOfLatestCheckpoint"
def versionField : List ℕ := codePoints "operatorVersion"

def tokenFields : List (List ℕ) :=
  [timelineField, walField, systemField, locationField, timeField, versionField]

/-- A token as the fields of a JSON object. -/
def TokenTexts.fields (t : TokenTexts) : List (List ℕ × List ℕ) :=
  [(timelineField, t.latestCheckpointTimelineId), (walField, t.redoWalFile),
    (systemField, t.databaseSystemIdentifier), (locationField, t.latestCheckpointRedoLocation),
    (timeField, t.timeOfLatestCheckpoint), (versionField, t.operatorVersion)]

/-- `[0-9A-F]`. -/
def isUpperHex (c : ℕ) : Bool := (48 ≤ c && c ≤ 57) || (65 ≤ c && c ≤ 70)

/-- `str.isdigit` of a text, for the digits of `digit`. -/
def isDigits (digit : ℕ → Bool) (text : List ℕ) : Bool := text ≠ [] && text.all digit

/-- `WAL_FILE.fullmatch`. -/
def isWalFile (text : List ℕ) : Bool := text.length = 24 && text.all isUpperHex

/-- `LSN.fullmatch`: hexadecimal on both sides of a slash. -/
def isLsn (text : List ℕ) : Bool :=
  match text.dropWhile isUpperHex with
  | [] => false
  | c :: rest => c = 47 && text.takeWhile isUpperHex ≠ [] && rest ≠ [] && rest.all isUpperHex

/-- `value and len(value) <= 128 and value.isprintable()`. -/
def isShortText (env : Interpreter) (text : List ℕ) : Bool :=
  text ≠ [] && text.length ≤ 128 && text.all env.isPrintable

theorem isDigits_iff {digit : ℕ → Bool} {text : List ℕ} :
    isDigits digit text = true ↔ text ≠ [] ∧ ∀ c ∈ text, digit c = true := by
  simp [isDigits]

theorem isWalFile_iff {text : List ℕ} :
    isWalFile text = true ↔ text.length = 24 ∧ ∀ c ∈ text, isUpperHex c = true := by
  simp [isWalFile]

theorem isShortText_iff {env : Interpreter} {text : List ℕ} : isShortText env text = true ↔
    text ≠ [] ∧ text.length ≤ 128 ∧ ∀ c ∈ text, env.isPrintable c = true := by
  simp [isShortText, and_assoc]

/-- Hexadecimal ends at the slash. -/
theorem isLsn_iff {text : List ℕ} : isLsn text = true ↔ ∃ a b, text = a ++ 47 :: b ∧ a ≠ [] ∧
    b ≠ [] ∧ ∀ c ∈ a ++ b, isUpperHex c = true := by
  constructor
  · intro h
    unfold isLsn at h
    split at h
    · cases h
    · rename_i c rest hrest
      simp only [Bool.and_eq_true, decide_eq_true_eq] at h
      obtain ⟨⟨⟨rfl, ha⟩, hb⟩, hall⟩ := h
      refine ⟨text.takeWhile isUpperHex, rest, ?_, ha, hb, ?_⟩
      · rw [← hrest, List.takeWhile_append_dropWhile]
      · intro c hc
        rcases List.mem_append.mp hc with hc | hc
        · exact List.mem_takeWhile_imp hc
        · exact List.all_eq_true.mp hall c hc
  · rintro ⟨a, b, rfl, ha, hb, hall⟩
    have hslash : isUpperHex 47 = false := by decide
    -- the slash is no digit, so it ends the first run of them
    have hleft : ∀ c ∈ a, isUpperHex c = true := fun c hc => hall c (List.mem_append_left b hc)
    have hdrop : (a ++ 47 :: b).dropWhile isUpperHex = 47 :: b := by
      rw [List.dropWhile_append_of_pos hleft, List.dropWhile_cons_of_neg (by simp [hslash])]
    have htake : (a ++ 47 :: b).takeWhile isUpperHex = a := by
      rw [List.takeWhile_append_of_pos hleft, List.takeWhile_cons_of_neg (by simp [hslash]),
        List.append_nil]
    have hright : b.all isUpperHex = true :=
      List.all_eq_true.mpr fun c hc => hall c (List.mem_append_right a hc)
    simp [isLsn, hdrop, htake, ha, hb, hright]

/-- The contents of a token, for the digits of `digit`. -/
structure TokenTexts.Valid (env : Interpreter) (digit : ℕ → Bool) (t : TokenTexts) : Prop where
  timeline : t.latestCheckpointTimelineId ≠ [] ∧
    ∀ c ∈ t.latestCheckpointTimelineId, digit c = true
  wal : t.redoWalFile.length = 24 ∧ ∀ c ∈ t.redoWalFile, isUpperHex c = true
  system : t.databaseSystemIdentifier ≠ [] ∧ ∀ c ∈ t.databaseSystemIdentifier, digit c = true
  location : ∃ a b, t.latestCheckpointRedoLocation = a ++ 47 :: b ∧ a ≠ [] ∧ b ≠ [] ∧
    ∀ c ∈ a ++ b, isUpperHex c = true
  time : t.timeOfLatestCheckpoint ≠ [] ∧ t.timeOfLatestCheckpoint.length ≤ 128 ∧
    ∀ c ∈ t.timeOfLatestCheckpoint, env.isPrintable c = true
  version : t.operatorVersion ≠ [] ∧ t.operatorVersion.length ≤ 128 ∧
    ∀ c ∈ t.operatorVersion, env.isPrintable c = true

/-- `PromotionToken`. -/
structure PromotionToken (env : Interpreter) extends TokenTexts where
  valid : toTokenTexts.Valid env env.isDigit

/-- The `ValueError` of `model_validate`: pydantic's, naming the field, or that of
    `model_post_init`. -/
inductive ContentError where
  | field (name : List ℕ)
  | content (message : String)

/-- `model_post_init`. -/
def modelPostInit (env : Interpreter) (t : TokenTexts) :
    Except ContentError (PromotionToken env) :=
  if htimeline : isDigits env.isDigit t.latestCheckpointTimelineId = true then
    if hwal : isWalFile t.redoWalFile = true then
      if hsystem : isDigits env.isDigit t.databaseSystemIdentifier = true then
        if hlocation : isLsn t.latestCheckpointRedoLocation = true then
          if htime : isShortText env t.timeOfLatestCheckpoint = true then
            if hversion : isShortText env t.operatorVersion = true then
              .ok ⟨t, ⟨isDigits_iff.mp htimeline, isWalFile_iff.mp hwal, isDigits_iff.mp hsystem,
                isLsn_iff.mp hlocation, isShortText_iff.mp htime, isShortText_iff.mp hversion⟩⟩
            else .error (.content "promotion token operator version is invalid")
          else .error (.content "promotion token checkpoint time is invalid")
        else .error (.content "promotion token REDO location is invalid")
      else .error (.content "promotion token database system identifier is invalid")
    else .error (.content "promotion token REDO WAL file is invalid")
  else .error (.content "promotion token timeline ID is invalid")

/-- A field of the model: `str`. -/
def strField (payload : Dict (List ℕ) Value) (name : List ℕ) : Except ContentError (List ℕ) :=
  match payload.get name with
  | some (.str text) => .ok text
  | _ => .error (.field name)

/-- `PromotionToken.model_validate`. -/
def modelValidate (env : Interpreter) (payload : Dict (List ℕ) Value) :
    Except ContentError (PromotionToken env) := do
  let timeline ← strField payload timelineField
  let wal ← strField payload walField
  let system ← strField payload systemField
  let location ← strField payload locationField
  let time ← strField payload timeField
  let version ← strField payload versionField
  modelPostInit env ⟨timeline, wal, system, location, time, version⟩

/-! ## The parser -/

/-- What the parser raises: `PromotionError`, or what passes its handlers. -/
inductive ParseError where
  | promotion (message : String)
  | valueError
  | recursionError

/-- One turn of `reject_duplicate_keys`. -/
def addField (value : Dict (List ℕ) Value) (pair : List ℕ × Value) :
    Except String (Dict (List ℕ) Value) :=
  if pair.1 ∈ value.keys then .error "promotion token contains duplicate JSON fields"
  else .ok (value.set pair.1 pair.2)

/-- `reject_duplicate_keys`. -/
def rejectDuplicateKeys (pairs : List (List ℕ × Value)) : Except String Value := do
  let value ← pairs.foldlM addField Dict.empty
  return .obj value.items

/-- How the parser calls `json.loads`. -/
def settings (env : Interpreter) : Settings String where
  recursionLimit := env.recursionLimit
  digitLimit := env.digitLimit
  pairsHook := rejectDuplicateKeys
  recursionLimit_pos := env.recursionLimit_pos

/-- `str.isspace` of an ASCII character. -/
def isAsciiSpace (c : ℕ) : Bool := (9 ≤ c && c ≤ 13) || (28 ≤ c && c ≤ 32)

/-- `str.strip()` of an ASCII text. -/
def strip (text : List ℕ) : List ℕ :=
  ((text.dropWhile isAsciiSpace).reverse.dropWhile isAsciiSpace).reverse

/-- `parse_promotion_token` from the decoded text on. -/
def parseText (env : Interpreter) (text : List ℕ) : Except ParseError (PromotionToken env) :=
  match loads (settings env) text with
  | .error (.hook message) => .error (.promotion message)
  | .error .decode => .error (.promotion "promotion token is not valid UTF-8 JSON")
  | .error .digits => .error .valueError
  | .error .recursion => .error .recursionError
  | .ok (.obj fields) =>
    let payload := Dict.ofPairs fields
    if (∀ k ∈ payload.keys, k ∈ tokenFields) ∧ ∀ k ∈ tokenFields, k ∈ payload.keys then
      (modelValidate env payload).mapError fun _ =>
        .promotion "promotion token content is invalid"
    else .error (.promotion "promotion token fields do not match the CloudNativePG contract")
  | .ok _ => .error (.promotion "promotion token fields do not match the CloudNativePG contract")

/-- `parse_promotion_token`. -/
def parsePromotionToken (env : Interpreter) (raw : List ℕ) :
    Except ParseError (PromotionToken env) :=
  if raw.any (128 ≤ ·) then .error (.promotion "promotion token is not ASCII")
  else if raw = [] ∨ maxPromotionTokenBytes < raw.length ∨ strip raw ≠ raw then
    .error (.promotion "promotion token is empty, padded with whitespace, or oversized")
  else
    match Base64.a2bBase64 env.excessPadding raw with
    | none => .error (.promotion "promotion token is not valid base64")
    | some decoded =>
      if maxDecodedTokenBytes < decoded.length then
        .error (.promotion "decoded promotion token is oversized")
      else
        match decodeDetected decoded with
        | none => .error (.promotion "promotion token is not valid UTF-8 JSON")
        | some text => parseText env text

/-- `load_promotion_token` of the octets of a file; `none` for an `OSError`. -/
def loadPromotionToken (env : Interpreter) (file : Option (List ℕ)) :
    Except ParseError (List ℕ × PromotionToken env) :=
  match file with
  | none => .error (.promotion "promotion token file is unavailable")
  | some content =>
    let raw := content.take (maxPromotionTokenBytes + 1)
    if maxPromotionTokenBytes < raw.length then
      .error (.promotion "promotion token file is oversized")
    else if raw.any (128 ≤ ·) then .error (.promotion "promotion token file is not ASCII")
    else (parsePromotionToken env (strip raw)).map fun token => (strip raw, token)

/-! ## What the checks let pass -/

theorem modelPostInit_ok {env : Interpreter} {t : TokenTexts} {token : PromotionToken env} :
    modelPostInit env t = .ok token ↔ token.toTokenTexts = t := by
  constructor
  · intro h
    unfold modelPostInit at h
    split_ifs at h
    rw [← Except.ok.inj h]
  · rintro rfl
    obtain ⟨htimeline, hwal, hsystem, hlocation, htime, hversion⟩ := token.valid
    unfold modelPostInit
    rw [dif_pos (isDigits_iff.mpr htimeline), dif_pos (isWalFile_iff.mpr hwal),
      dif_pos (isDigits_iff.mpr hsystem), dif_pos (isLsn_iff.mpr hlocation),
      dif_pos (isShortText_iff.mpr htime), dif_pos (isShortText_iff.mpr hversion)]

theorem strField_ok {payload : Dict (List ℕ) Value} {name text : List ℕ} :
    strField payload name = .ok text ↔ payload.get name = some (.str text) := by
  unfold strField
  constructor
  · intro h
    split at h
    · rename_i u hget
      rw [hget, Except.ok.inj h]
    · cases h
  · intro h
    rw [h]

/-- **The model takes the fields of the token**, each a string. -/
theorem modelValidate_ok {env : Interpreter} {payload : Dict (List ℕ) Value}
    {token : PromotionToken env} : modelValidate env payload = .ok token ↔
      ∀ f ∈ token.fields, payload.get f.1 = some (.str f.2) := by
  constructor
  · intro h
    obtain ⟨timeline, htimeline, h⟩ := Raising.bind_ok h
    obtain ⟨wal, hwal, h⟩ := Raising.bind_ok h
    obtain ⟨system, hsystem, h⟩ := Raising.bind_ok h
    obtain ⟨location, hlocation, h⟩ := Raising.bind_ok h
    obtain ⟨time, htime, h⟩ := Raising.bind_ok h
    obtain ⟨version, hversion, h⟩ := Raising.bind_ok h
    rw [modelPostInit_ok.mp h]
    simp only [TokenTexts.fields, List.forall_mem_cons, List.not_mem_nil, false_implies,
      implies_true, and_true]
    exact ⟨strField_ok.mp htimeline, strField_ok.mp hwal, strField_ok.mp hsystem,
      strField_ok.mp hlocation, strField_ok.mp htime, strField_ok.mp hversion⟩
  · intro h
    simp only [TokenTexts.fields, List.forall_mem_cons, List.not_mem_nil, false_implies,
      implies_true, and_true] at h
    obtain ⟨htimeline, hwal, hsystem, hlocation, htime, hversion⟩ := h
    simp only [modelValidate, strField_ok.mpr htimeline, strField_ok.mpr hwal,
      strField_ok.mpr hsystem, strField_ok.mpr hlocation, strField_ok.mpr htime,
      strField_ok.mpr hversion, bind, Except.bind]
    exact modelPostInit_ok.mpr rfl

/-- What the hook has so far, with the pairs still to come. -/
theorem foldlM_addField (pairs : List (List ℕ × Value)) (d : Dict (List ℕ) Value) :
    (pairs.foldlM addField d).map Dict.items =
      if ((d.items ++ pairs).map Prod.fst).Nodup then .ok (d.items ++ pairs)
      else .error "promotion token contains duplicate JSON fields" := by
  induction pairs generalizing d with
  | nil =>
    rw [List.append_nil, if_pos d.nodup]
    rfl
  | cons p pairs ih =>
    have hsplit : d.items ++ p :: pairs = d.items ++ [p] ++ pairs := by
      rw [List.append_assoc, List.singleton_append]
    by_cases hp : p.1 ∈ d.keys
    · have hdup : ¬ ((d.items ++ p :: pairs).map Prod.fst).Nodup := by
        rw [List.map_append, List.nodup_append]
        rintro ⟨-, -, hdisjoint⟩
        exact hdisjoint _ hp _ List.mem_cons_self rfl
      rw [if_neg hdup, List.foldlM_cons, addField, if_pos hp]
      rfl
    · have hset : (d.set p.1 p.2).items = d.items ++ [p] := Dict.setItems_of_new hp
      rw [List.foldlM_cons, addField, if_neg hp, hsplit, ← hset, ← ih (d.set p.1 p.2)]
      rfl

/-- **The hook lets an object pass whose names are distinct.** -/
theorem rejectDuplicateKeys_eq (pairs : List (List ℕ × Value)) : rejectDuplicateKeys pairs =
    if (pairs.map Prod.fst).Nodup then .ok (.obj pairs)
    else .error "promotion token contains duplicate JSON fields" := by
  have h := foldlM_addField pairs Dict.empty
  have hitems : (Dict.empty : Dict (List ℕ) Value).items ++ pairs = pairs := rfl
  rw [hitems] at h
  unfold rejectDuplicateKeys
  split_ifs at h ⊢ with hnodup
  · obtain ⟨d, hd, heq⟩ := Raising.map_ok h
    rw [hd, ← heq]
    rfl
  · rw [Raising.map_error h]
    rfl

theorem keepsFields_settings (env : Interpreter) : KeepsFields (settings env) := by
  intro fs v h
  have h : rejectDuplicateKeys fs = .ok v := h
  rw [rejectDuplicateKeys_eq] at h
  split_ifs at h
  exact (Except.ok.inj h).symm

theorem nodup_of_rejectDuplicateKeys {pairs : List (List ℕ × Value)} {v : Value}
    (h : rejectDuplicateKeys pairs = .ok v) : (pairs.map Prod.fst).Nodup := by
  rw [rejectDuplicateKeys_eq] at h
  split_ifs at h with hnodup
  exact hnodup

theorem tokenFields_nodup : tokenFields.Nodup := by decide

theorem TokenTexts.fields_names (t : TokenTexts) : t.fields.map Prod.fst = tokenFields := rfl

/-- The six fields among as many with distinct names of theirs are all of them. -/
theorem perm_fields {t : TokenTexts} {fs : List (List ℕ × List ℕ)}
    (hnodup : (fs.map Prod.fst).Nodup) (hnames : ∀ n ∈ fs.map Prod.fst, n ∈ tokenFields)
    (hfields : ∀ f ∈ t.fields, f ∈ fs) : fs.Perm t.fields := by
  have ht : t.fields.Nodup := List.Nodup.of_map Prod.fst (t.fields_names ▸ tokenFields_nodup)
  have hlen : fs.length ≤ t.fields.length := by
    have := (List.subperm_of_subset hnodup hnames).length_le
    rwa [List.length_map] at this
  exact ((List.subperm_of_subset ht hfields).perm_of_length_le hlen).symm

/-- The text is a JSON object of the six fields, of valid contents. -/
def TokenDocument (env : Interpreter) (digit : ℕ → Bool) (text : List ℕ) (t : TokenTexts) :
    Prop :=
  ∃ fs, ObjectText text fs ∧ fs.Perm t.fields ∧ t.Valid env digit

/-- What `json.loads` makes of such a text. -/
theorem loads_of_document {env : Interpreter} {text : List ℕ} {t : TokenTexts}
    {fs : List (List ℕ × List ℕ)} (htext : ObjectText text fs) (hperm : fs.Perm t.fields) :
    loads (settings env) text = .ok (.obj (strValues fs)) := by
  have hnodup : ((strValues fs).map Prod.fst).Nodup := by
    rw [strValues_names, (hperm.map Prod.fst).nodup_iff, t.fields_names]
    exact tokenFields_nodup
  rw [loads_of_objectText htext]
  show (rejectDuplicateKeys (strValues fs)).mapError ScanError.hook = _
  rw [rejectDuplicateKeys_eq, if_pos hnodup]
  rfl

/-- **From the decoded text on, the parser accepts the token documents**, for the digits of
    `str.isdigit`. -/
theorem parseText_ok {env : Interpreter} {text : List ℕ} {token : PromotionToken env} :
    parseText env text = .ok token ↔ TokenDocument env env.isDigit text token.toTokenTexts := by
  constructor
  · intro h
    unfold parseText at h
    split at h
    · cases h
    · cases h
    · cases h
    · cases h
    · rename_i fields hloads
      dsimp only at h
      split_ifs at h with hnames
      have hvalid := modelValidate_ok.mp (Raising.mapError_ok.mp h)
      have hnodup := nodup_of_rejectDuplicateKeys
        (pairsHook_of_loads (keepsFields_settings env) hloads)
      have hitems : (Dict.ofPairs fields).items = fields := Dict.ofPairs_items hnodup
      have hkeys : ∀ n ∈ fields.map Prod.fst, n ∈ tokenFields := by
        intro n hn
        rw [← hitems] at hn
        exact hnames.1 n hn
      -- each field of the payload is one of the model's, so its value is a string
      have hstr : ∀ f ∈ fields, ∃ u, f.2 = .str u := by
        intro f hf
        have hname := hkeys f.1 (List.mem_map_of_mem hf)
        rw [← token.fields_names] at hname
        obtain ⟨g, hg, heq⟩ := List.mem_map.mp hname
        have hget := hvalid g hg
        rw [heq, Dict.get_of_mem (hitems ▸ hf)] at hget
        exact ⟨g.2, Option.some.inj hget⟩
      obtain ⟨fs, rfl⟩ := exists_strValues hstr
      rw [strValues_names] at hnodup hkeys
      refine ⟨fs, objectText_of_loads (keepsFields_settings env) hloads,
        perm_fields hnodup hkeys ?_, token.valid⟩
      intro f hf
      have hmem := Dict.mem_of_get (hvalid f hf)
      rw [hitems] at hmem
      exact mem_strValues.mp hmem
    · cases h
  · rintro ⟨fs, htext, hperm, -⟩
    have hnames : (strValues fs).map Prod.fst = fs.map Prod.fst := strValues_names fs
    have hpermNames : (fs.map Prod.fst).Perm tokenFields := hperm.map Prod.fst
    have hitems : (Dict.ofPairs (strValues fs)).items = strValues fs := by
      refine Dict.ofPairs_items ?_
      rw [hnames, hpermNames.nodup_iff]
      exact tokenFields_nodup
    have hkeys : (Dict.ofPairs (strValues fs)).keys = fs.map Prod.fst := by
      rw [Dict.keys, hitems, hnames]
    have hset : (∀ k ∈ (Dict.ofPairs (strValues fs)).keys, k ∈ tokenFields) ∧
        ∀ k ∈ tokenFields, k ∈ (Dict.ofPairs (strValues fs)).keys := by
      rw [hkeys]
      exact ⟨fun k hk => hpermNames.mem_iff.mp hk, fun k hk => hpermNames.mem_iff.mpr hk⟩
    have hvalid : modelValidate env (Dict.ofPairs (strValues fs)) = .ok token := by
      refine modelValidate_ok.mpr fun f hf => Dict.get_of_mem ?_
      rw [hitems]
      exact mem_strValues.mpr (hperm.mem_iff.mpr hf)
    unfold parseText
    rw [loads_of_document htext hperm]
    simp only [if_pos hset, hvalid, Except.mapError]

/-- **What else than `PromotionError` the parser raises**: what `json.loads` raises for a limit. -/
theorem parseText_escapes {env : Interpreter} {text : List ℕ} :
    (∃ e, parseText env text = .error e ∧ ∀ m, e ≠ .promotion m) ↔
      LimitMet (settings env) text := by
  rw [← loads_limit]
  unfold parseText
  constructor
  · rintro ⟨e, h, he⟩
    split at h
    · cases h
      exact absurd rfl (he _)
    · cases h
      exact absurd rfl (he _)
    · rename_i hloads
      exact ⟨.digits, .inl rfl, hloads⟩
    · rename_i hloads
      exact ⟨.recursion, .inr rfl, hloads⟩
    · dsimp only at h
      split_ifs at h
      · obtain ⟨e', -, heq⟩ := Raising.mapError_error h
        exact absurd heq.symm (he _)
      · cases h
        exact absurd rfl (he _)
    · cases h
      exact absurd rfl (he _)
  · rintro ⟨e, rfl | rfl, hloads⟩ <;> rw [hloads]
    · exact ⟨.valueError, rfl, by simp⟩
    · exact ⟨.recursionError, rfl, by simp⟩

/-- The text comes through to `json.loads`: ASCII, not padded, within the sizes, base64 of octets
    that are text. -/
structure Reads (env : Interpreter) (raw decoded text : List ℕ) : Prop where
  ascii : raw.any (128 ≤ ·) = false
  size : raw ≠ [] ∧ raw.length ≤ maxPromotionTokenBytes
  stripped : strip raw = raw
  base64 : Base64.a2bBase64 env.excessPadding raw = some decoded
  decodedSize : decoded.length ≤ maxDecodedTokenBytes
  decodes : decodeDetected decoded = some text

theorem Reads.parse_eq {env : Interpreter} {raw decoded text : List ℕ}
    (h : Reads env raw decoded text) : parsePromotionToken env raw = parseText env text := by
  have hguard : ¬ (raw = [] ∨ maxPromotionTokenBytes < raw.length ∨ strip raw ≠ raw) := by
    simp [h.size, h.stripped]
  unfold parsePromotionToken
  rw [if_neg (by simp [h.ascii]), if_neg hguard, h.base64]
  simp only [if_neg (Nat.not_lt.mpr h.decodedSize), h.decodes]

/-- Every other text is refused. -/
theorem parse_cases (env : Interpreter) (raw : List ℕ) :
    (∃ m, parsePromotionToken env raw = .error (.promotion m)) ∨
      ∃ decoded text, Reads env raw decoded text := by
  unfold parsePromotionToken
  split_ifs with hascii hguard
  · exact .inl ⟨_, rfl⟩
  · exact .inl ⟨_, rfl⟩
  obtain ⟨hne, hsize, hstrip⟩ : raw ≠ [] ∧ ¬ maxPromotionTokenBytes < raw.length ∧
      strip raw = raw := by simpa using hguard
  cases hbase64 : Base64.a2bBase64 env.excessPadding raw with
  | none => exact .inl ⟨_, rfl⟩
  | some decoded =>
    dsimp only
    split_ifs with hdecoded
    · exact .inl ⟨_, rfl⟩
    cases hdecodes : decodeDetected decoded with
    | none => exact .inl ⟨_, rfl⟩
    | some text =>
      exact .inr ⟨decoded, text, Bool.eq_false_iff.mpr hascii, ⟨hne, Nat.not_lt.mp hsize⟩, hstrip,
        hbase64, Nat.not_lt.mp hdecoded, hdecodes⟩

end AEControl.Promotion
