/-
  The Prometheus text format: a writer and a reader.

  A text is a sequence of lines, each a help text, a type or a sample; a sample has a name, labels in
  braces, and a value.  Only the label values are quoted, so they alone may hold any character:
  `escape` spells the quote, the backslash and the end of the line with a backslash.

  The crux is `readValue_escape`: a quoted value ends at its own quote.  From it the labels, the line
  and the text are read back (`read_render`).
-/
import Mathlib.Data.Nat.Notation
import Mathlib.Data.List.Basic

namespace AEControl.Exposition

/-! ## Lines -/

structure Sample where
  name : String
  labels : List (String × String)
  value : String
  deriving DecidableEq

inductive Line where
  | help (name text : String)
  | kind (name text : String)
  | sample (s : Sample)
  deriving DecidableEq

def isNameStart (c : Char) : Bool := c.isAlpha || c = '_' || c = ':'

/-- A metric or label name is of these. -/
def isNameChar (c : Char) : Bool := isNameStart c || c.isDigit

def isName (name : String) : Bool :=
  name.toList.head?.any isNameStart && name.toList.all isNameChar

/-- The rest of a line: anything but its end. -/
def isRest (text : String) : Bool := text.toList.all (· ≠ '\n')

/-- A line of the format. -/
def Line.valid : Line → Bool
  | help name text => isName name && isRest text
  | kind name text => isName name && isRest text
  | sample s => isName s.name && s.labels.all (fun label => isName label.1) && isRest s.value

/-! ## Writing -/

def escapeChar : Char → List Char
  | '\\' => ['\\', '\\']
  | '\n' => ['\\', 'n']
  | '"' => ['\\', '"']
  | c => [c]

/-- A label value between its quotes. -/
def escape (value : String) : String := String.ofList (value.toList.flatMap escapeChar)

/-- Labels whose values are escaped already. -/
def labelsText (labels : List (String × String)) : List Char :=
  [','].intercalate (labels.map fun label => label.1.toList ++ '=' :: '"' :: label.2.toList ++ ['"'])

/-- A sample whose label values are escaped already. -/
def sampleText (name : String) (labels : List (String × String)) (value : String) : List Char :=
  name.toList ++ (if labels = [] then [] else '{' :: labelsText labels ++ ['}']) ++
    ' ' :: value.toList

def helpMark : List Char := ['#', ' ', 'H', 'E', 'L', 'P', ' ']

def kindMark : List Char := ['#', ' ', 'T', 'Y', 'P', 'E', ' ']

def helpText (name text : String) : List Char := helpMark ++ name.toList ++ ' ' :: text.toList

def kindText (name text : String) : List Char := kindMark ++ name.toList ++ ' ' :: text.toList

def Line.text : Line → List Char
  | help name text => helpText name text
  | kind name text => kindText name text
  | sample s => sampleText s.name (s.labels.map fun label => (label.1, escape label.2)) s.value

/-- Every line with its end. -/
def unlines (lines : List (List Char)) : String :=
  String.ofList (lines.flatMap fun line => line ++ ['\n'])

def render (lines : List Line) : String := unlines (lines.map Line.text)

/-! ## Reading -/

def unescapeChar : Char → Option Char
  | '\\' => some '\\'
  | 'n' => some '\n'
  | '"' => some '"'
  | _ => none

/-- A quoted value, and what follows its closing quote. -/
def readValue : List Char → Option (List Char × List Char)
  | [] => none
  | '"' :: rest => some ([], rest)
  | '\\' :: c :: rest => do
    let d ← unescapeChar c
    let (value, rest) ← readValue rest
    some (d :: value, rest)
  | '\\' :: [] => none
  | c :: rest => do
    let (value, rest) ← readValue rest
    some (c :: value, rest)

/-- Labels up to the closing brace, at most `fuel`, and what follows it. -/
def readLabels : ℕ → List Char → Option (List (String × String) × List Char)
  | 0, _ => none
  | fuel + 1, text => do
    let name := String.ofList (text.takeWhile isNameChar)
    if !isName name then none
    match text.dropWhile isNameChar with
    | '=' :: '"' :: rest =>
      let (value, rest) ← readValue rest
      match rest with
      | ',' :: rest =>
        let (labels, rest) ← readLabels fuel rest
        some ((name, String.ofList value) :: labels, rest)
      | '}' :: rest => some ([(name, String.ofList value)], rest)
      | _ => none
    | _ => none

/-- A sample. -/
def readSample (text : List Char) : Option Line := do
  let name := String.ofList (text.takeWhile isNameChar)
  if !isName name then none
  match text.dropWhile isNameChar with
  | ' ' :: value => some (.sample ⟨name, [], String.ofList value⟩)
  | '{' :: rest =>
    let (labels, rest) ← readLabels rest.length rest
    match rest with
    | ' ' :: value => some (.sample ⟨name, labels, String.ofList value⟩)
    | _ => none
  | _ => none

/-- A name and a text behind it. -/
def readComment (line : String → String → Line) (text : List Char) : Option Line :=
  let name := String.ofList (text.takeWhile isNameChar)
  match text.dropWhile isNameChar with
  | ' ' :: rest => if isName name then some (line name (String.ofList rest)) else none
  | _ => none

def readLine (text : List Char) : Option Line :=
  if helpMark.isPrefixOf text then readComment .help (text.drop 7)
  else if kindMark.isPrefixOf text then readComment .kind (text.drop 7)
  else readSample text

/-- The lines of a text, of which the last is complete too. -/
def read (text : String) : Option (List Line) :=
  let lines := text.toList.splitOn '\n'
  if lines.getLast? = some [] then lines.dropLast.mapM readLine else none

/-! ## What is written is read back -/

/-- **A quoted value ends at its own quote.** -/
theorem readValue_escape (value rest : List Char) :
    readValue (value.flatMap escapeChar ++ '"' :: rest) = some (value, rest) := by
  induction value with
  | nil => rfl
  | cons c value ih =>
    rw [List.flatMap_cons, List.append_assoc]
    by_cases hbackslash : c = '\\'
    · subst hbackslash
      simp [escapeChar, readValue, unescapeChar, ih]
    by_cases hline : c = '\n'
    · subst hline
      simp [escapeChar, readValue, unescapeChar, ih]
    by_cases hquote : c = '"'
    · subst hquote
      simp [escapeChar, readValue, unescapeChar, ih]
    have hplain : escapeChar c = [c] := by simp [escapeChar]
    rw [hplain]
    simp [readValue, hbackslash, ih]

/-- The characters of a name are characters of names. -/
theorem isNameChar_of_mem {name : String} (h : isName name = true) {c : Char}
    (hc : c ∈ name.toList) : isNameChar c = true :=
  List.all_eq_true.mp (Bool.and_eq_true_iff.mp h).2 c hc

/-- A name ends where the first other character stands. -/
theorem cut_name {name : String} (h : isName name = true) {c : Char} (hc : isNameChar c = false)
    (rest : List Char) : (name.toList ++ c :: rest).takeWhile isNameChar = name.toList ∧
      (name.toList ++ c :: rest).dropWhile isNameChar = c :: rest := by
  have hall : ∀ x ∈ name.toList, isNameChar x = true := fun x hx => isNameChar_of_mem h hx
  constructor
  · rw [List.takeWhile_append_of_pos hall, List.takeWhile_cons_of_neg (by simp [hc]),
      List.append_nil]
  · rw [List.dropWhile_append_of_pos hall, List.dropWhile_cons_of_neg (by simp [hc])]

/-- The escaped labels. -/
def escapeLabels (labels : List (String × String)) : List (String × String) :=
  labels.map fun label => (label.1, escape label.2)

/-- The text of the labels starts with that of the first one. -/
theorem labelsText_cons (label : String × String) (labels : List (String × String)) :
    labelsText (label :: labels) = label.1.toList ++ '=' :: '"' :: label.2.toList ++ '"' ::
      (if labels = [] then [] else ',' :: labelsText labels) := by
  cases labels with
  | nil => simp [labelsText, List.intercalate]
  | cons next labels => simp [labelsText, List.intercalate]

/-- A label is written with a character at least. -/
theorem length_le_labelsText (labels : List (String × String)) :
    labels.length ≤ (labelsText (escapeLabels labels)).length := by
  induction labels with
  | nil => exact Nat.zero_le _
  | cons label labels ih =>
    show _ ≤ (labelsText ((label.1, escape label.2) :: escapeLabels labels)).length
    rw [labelsText_cons]
    cases labels with
    | nil =>
      simp [escapeLabels]
      omega
    | cons next labels =>
      simp only [escapeLabels, List.map_cons, List.length_append, List.length_cons] at ih ⊢
      simp only [reduceCtorEq, if_false, List.length_cons]
      omega

/-- **Labels are read back from their text**, by induction on them; the fuel is their number. -/
theorem readLabels_text {labels : List (String × String)} (hne : labels ≠ [])
    (hnames : ∀ label ∈ labels, isName label.1 = true) (rest : List Char) {fuel : ℕ}
    (hfuel : labels.length ≤ fuel) :
    readLabels fuel (labelsText (escapeLabels labels) ++ '}' :: rest) = some (labels, rest) := by
  induction labels generalizing fuel with
  | nil => exact absurd rfl hne
  | cons label labels ih =>
    obtain ⟨hname, hnames⟩ := List.forall_mem_cons.mp hnames
    obtain ⟨fuel, rfl⟩ : ∃ n, fuel = n + 1 := ⟨fuel - 1, by simp at hfuel; omega⟩
    have htext : labelsText (escapeLabels (label :: labels)) ++ '}' :: rest =
        label.1.toList ++ '=' :: '"' :: (label.2.toList.flatMap escapeChar ++ '"' ::
          ((if labels = [] then [] else ',' :: labelsText (escapeLabels labels)) ++
            '}' :: rest)) := by
      show labelsText ((label.1, escape label.2) :: escapeLabels labels) ++ '}' :: rest = _
      rw [labelsText_cons]
      simp [escape, escapeLabels]
    have hcut := cut_name hname (c := '=') (by decide)
      ('"' :: (label.2.toList.flatMap escapeChar ++ '"' ::
        ((if labels = [] then [] else ',' :: labelsText (escapeLabels labels)) ++ '}' :: rest)))
    rw [htext, readLabels, hcut.1, hcut.2, String.ofList_toList]
    simp only [hname, Bool.not_true, Bool.false_eq_true, if_false]
    rw [readValue_escape]
    cases labels with
    | nil => simp
    | cons next labels =>
      have hfuel : (next :: labels).length ≤ fuel := by simpa using hfuel
      have hrest := ih (List.cons_ne_nil _ _) hnames hfuel
      simp [hrest]

/-- A valid sample is read back from its line. -/
theorem readSample_text {s : Sample} (h : (Line.sample s).valid = true) :
    readSample (Line.sample s).text = some (.sample s) := by
  obtain ⟨name, labels, value⟩ := s
  simp only [Line.valid, Bool.and_eq_true, List.all_eq_true] at h
  obtain ⟨⟨hname, hlabels⟩, -⟩ := h
  by_cases hne : labels = []
  · subst hne
    have hcut := cut_name hname (c := ' ') (by decide) value.toList
    have htext : (Line.sample ⟨name, [], value⟩).text = name.toList ++ ' ' :: value.toList := by
      simp [Line.text, sampleText]
    rw [htext, readSample, hcut.1, hcut.2, String.ofList_toList]
    simp [hname]
  · have hcut := cut_name hname (c := '{') (by decide)
      (labelsText (escapeLabels labels) ++ '}' :: ' ' :: value.toList)
    have htext : (Line.sample ⟨name, labels, value⟩).text =
        name.toList ++ '{' :: (labelsText (escapeLabels labels) ++ '}' :: ' ' :: value.toList) := by
      simp [Line.text, sampleText, hne, escapeLabels]
    have hfuel : labels.length ≤
        (labelsText (escapeLabels labels) ++ '}' :: ' ' :: value.toList).length := by
      have hone : labels.length ≤ (labelsText (escapeLabels labels)).length :=
        length_le_labelsText _
      rw [List.length_append]
      omega
    rw [htext, readSample, hcut.1, hcut.2, String.ofList_toList]
    simp only [hname, Bool.not_true, Bool.false_eq_true, if_false]
    rw [readLabels_text hne hlabels _ hfuel]
    simp

/-- A comment is read back from its line, be it a help text or a type. -/
theorem readComment_text {line : String → String → Line} {name text : String}
    (h : isName name = true) :
    readComment line (name.toList ++ ' ' :: text.toList) = some (line name text) := by
  have hcut := cut_name h (c := ' ') (by decide) text.toList
  rw [readComment, hcut.1, hcut.2, String.ofList_toList]
  simp [h]

/-- A name does not begin like a comment. -/
theorem not_comment {name : String} (h : isName name = true) {start : List Char}
    (hstart : start.head? = some '#') (rest : List Char) :
    start.isPrefixOf (name.toList ++ rest) = false := by
  have hfirst := (Bool.and_eq_true_iff.mp h).1
  cases hname : name.toList with
  | nil => simp [hname] at hfirst
  | cons c cs =>
    cases start with
    | nil => cases hstart
    | cons d ds =>
      obtain rfl : d = '#' := Option.some.inj hstart
      rw [hname] at hfirst
      have hc : ('#' == c) = false := by
        refine beq_false_of_ne fun hc => ?_
        subst hc
        simp at hfirst
        revert hfirst
        decide
      simp [List.isPrefixOf, hc]

/-- **Every valid line is read back from its text.** -/
theorem readLine_text {line : Line} (h : line.valid = true) : readLine line.text = some line := by
  cases line with
  | help name text =>
    have hname : isName name = true := (Bool.and_eq_true_iff.mp h).1
    unfold readLine
    rw [if_pos (by simp [Line.text, helpText, helpMark, List.isPrefixOf])]
    exact readComment_text hname
  | kind name text =>
    have hname : isName name = true := (Bool.and_eq_true_iff.mp h).1
    unfold readLine
    rw [if_neg (by simp [Line.text, kindText, kindMark, helpMark, List.isPrefixOf]),
      if_pos (by simp [Line.text, kindText, kindMark, List.isPrefixOf])]
    exact readComment_text hname
  | sample s =>
    have hname : isName s.name = true := by
      simp only [Line.valid, Bool.and_eq_true] at h
      exact h.1.1
    have hnot : ∀ start : List Char, start.head? = some '#' →
        start.isPrefixOf (Line.sample s).text = false := by
      intro start hstart
      simp only [Line.text, sampleText, List.append_assoc]
      exact not_comment hname hstart _
    unfold readLine
    rw [if_neg (by rw [hnot helpMark rfl]; decide), if_neg (by rw [hnot kindMark rfl]; decide)]
    exact readSample_text h

/-! ## Lines stay apart -/

/-- A name has no line break. -/
theorem newline_not_mem_name {name : String} (h : isName name = true) : '\n' ∉ name.toList := by
  intro hmem
  have := isNameChar_of_mem h hmem
  revert this
  decide

/-- What may end a line has no line break in it. -/
theorem newline_not_mem_rest {text : String} (h : isRest text = true) : '\n' ∉ text.toList := by
  intro hmem
  have := List.all_eq_true.mp h _ hmem
  simp at this

/-- No value breaks its line. -/
theorem newline_not_mem_escape (value : String) : '\n' ∉ (escape value).toList := by
  rw [escape, String.toList_ofList, List.mem_flatMap]
  rintro ⟨c, -, hc⟩
  by_cases hline : c = '\n'
  · subst hline
    simp [escapeChar] at hc
  · have hne : '\n' ≠ c := fun h => hline h.symm
    unfold escapeChar at hc
    split at hc <;> simp [hne] at hc

/-- Escaped labels have no line break. -/
theorem newline_not_mem_labelsText {labels : List (String × String)}
    (h : ∀ label ∈ labels, isName label.1 = true) :
    '\n' ∉ labelsText (escapeLabels labels) := by
  induction labels with
  | nil => simp [labelsText, escapeLabels, List.intercalate]
  | cons label labels ih =>
    obtain ⟨hname, hnames⟩ := List.forall_mem_cons.mp h
    have hname := newline_not_mem_name hname
    have hvalue := newline_not_mem_escape label.2
    have hlabels := ih hnames
    show '\n' ∉ labelsText ((label.1, escape label.2) :: escapeLabels labels)
    rw [labelsText_cons]
    split_ifs <;> simp [hname, hvalue, hlabels]

/-- A valid line has no line break. -/
theorem newline_not_mem_text {line : Line} (h : line.valid = true) : '\n' ∉ line.text := by
  cases line with
  | help name text =>
    obtain ⟨hname, htext⟩ := Bool.and_eq_true_iff.mp h
    simp [Line.text, helpText, helpMark, newline_not_mem_name hname, newline_not_mem_rest htext]
  | kind name text =>
    obtain ⟨hname, htext⟩ := Bool.and_eq_true_iff.mp h
    simp [Line.text, kindText, kindMark, newline_not_mem_name hname, newline_not_mem_rest htext]
  | sample s =>
    simp only [Line.valid, Bool.and_eq_true, List.all_eq_true] at h
    obtain ⟨⟨hname, hlabels⟩, hvalue⟩ := h
    have hname := newline_not_mem_name hname
    have hvalue := newline_not_mem_rest hvalue
    have hlabels := newline_not_mem_labelsText hlabels
    unfold escapeLabels at hlabels
    simp only [Line.text, sampleText]
    split_ifs <;> simp [hname, hvalue, hlabels]

/-- Lines without line breaks are found again by splitting at the line breaks. -/
theorem splitOn_unlines {lines : List (List Char)} (h : ∀ line ∈ lines, '\n' ∉ line) :
    (unlines lines).toList.splitOn '\n' = lines ++ [[]] := by
  rw [unlines, String.toList_ofList]
  induction lines with
  | nil => rfl
  | cons line lines ih =>
    obtain ⟨hline, hlines⟩ := List.forall_mem_cons.mp h
    rw [List.flatMap_cons, List.append_assoc, List.singleton_append,
      List.splitOn_append_cons_self, List.splitOn_eq_singleton hline, ih hlines]
    rfl

/-- **A text of the format is read back**, whatever its label values hold. -/
theorem read_render {lines : List Line} (h : ∀ line ∈ lines, line.valid = true) :
    read (render lines) = some lines := by
  have hsplit : (render lines).toList.splitOn '\n' = lines.map Line.text ++ [[]] := by
    refine splitOn_unlines fun text htext => ?_
    obtain ⟨line, hline, rfl⟩ := List.mem_map.mp htext
    exact newline_not_mem_text (h line hline)
  have hlines : (lines.map Line.text).mapM readLine = some lines := by
    clear hsplit
    induction lines with
    | nil => rfl
    | cons line lines ih =>
      obtain ⟨hline, hlines⟩ := List.forall_mem_cons.mp h
      rw [List.map_cons, List.mapM_cons, readLine_text hline, ih hlines]
      rfl
  unfold read
  rw [hsplit]
  simp only [List.getLast?_concat, List.dropLast_concat, if_true]
  exact hlines

end AEControl.Exposition
