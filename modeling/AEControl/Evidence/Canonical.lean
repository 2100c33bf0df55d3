/-
  `canonical_json_bytes`: the bytes that every digest, ledger hash and signature rests on.

  Two payloads have equal canonical texts exactly if they are the same value, key order and the sign
  of zero apart (`canonicalBytes_eq_iff`).  The bytes are those of that text wherever there are any:
  `_normalize_json` calls itself once for every level of nesting, and a payload nested deeper than
  the interpreter's recursion limit gets none, be it equal to itself (`canonicalJsonBytes_eq_iff`,
  `canonicalJsonBytes_fails`).

  The proof is in the libraries: `Json.canon_eq_iff` says when two values have one canonical form,
  by induction on both (`Lib/JsonEquiv`), `print_injective` that a value is read off its text
  (`Lib/Json`), and `height_canon` and `encodable_canon` that equal values meet the two limits
  together.
-/
import AEControl.Lib.JsonEquiv
import AEControl.Evidence.Publication

namespace AEControl.Evidence

open Json

/-- Null, booleans, integers, finite floats, texts, lists and mappings with distinct text keys. -/
abbrev Payload := { j : Json // j.WellFormed }

/-- The canonical text in bytes, every scalar being printed in its standard form. -/
def canonicalBytes (j : Json) : Bytes := utf8 j.canonicalText

/-- `canonical_json_bytes`. -/
def canonicalJsonBytes (I : Interpreter) (j : Json) : Except EvidenceError Bytes :=
  utf8 <$> canonicalJsonText I j

/-- **Canonical texts are canonical.**  Two payloads have one exactly if they are equal up to the
    order of keys and the sign of zero. -/
theorem canonicalBytes_eq_iff {j k : Payload} :
    canonicalBytes j.val = canonicalBytes k.val ↔ Same j.val k.val := by
  rw [← canon_eq_iff j.val k.val j.property k.property, ← canonicalText_inj]
  exact ⟨utf8_inj, congrArg utf8⟩

variable {I : Interpreter}

/-- Whether a value has a canonical text is seen of its canonical form … -/
theorem canonicalizes_canon (j : Json) : I.canonicalizes j.canon = I.canonicalizes j := by
  rw [Interpreter.canonicalizes, Interpreter.canonicalizes, height_canon, encodable_canon]

/-- … so values with one canonical form have a text together. -/
theorem canonicalizes_of_canon_eq {j k : Json} (h : j.canon = k.canon) :
    I.canonicalizes j = I.canonicalizes k := by
  rw [← canonicalizes_canon j, h, canonicalizes_canon]

theorem canonicalizes_of_same {j k : Payload} (h : Same j.val k.val) :
    I.canonicalizes j.val = I.canonicalizes k.val :=
  canonicalizes_of_canon_eq ((canon_eq_iff _ _ j.property k.property).mpr h)

/-- The bytes of a payload are those of its canonical text, where it has one. -/
theorem canonicalJsonBytes_ok {j : Json} {bytes : Bytes} :
    canonicalJsonBytes I j = .ok bytes ↔
      I.canonicalizes j = true ∧ canonicalBytes j = bytes := by
  constructor
  · intro h
    obtain ⟨text, htext, rfl⟩ := Raising.map_ok h
    obtain ⟨hcanonical, rfl⟩ := canonicalJsonText_ok.mp htext
    exact ⟨hcanonical, rfl⟩
  · rintro ⟨hcanonical, rfl⟩
    rw [canonicalJsonBytes, canonicalJsonText_of hcanonical]
    rfl

/-- `canonical_json_bytes` gives the two payloads equal bytes. -/
def EqualBytes (I : Interpreter) (j k : Payload) : Prop :=
  ∃ bytes, canonicalJsonBytes I j.val = .ok bytes ∧ canonicalJsonBytes I k.val = .ok bytes

/-- Equal bytes are given to payloads that are the same and have a canonical text. -/
theorem equalBytes_iff {j k : Payload} :
    EqualBytes I j k ↔ Same j.val k.val ∧ I.canonicalizes j.val = true := by
  simp only [EqualBytes, canonicalJsonBytes_ok]
  constructor
  · rintro ⟨bytes, ⟨hj, hbytes⟩, -, hbytes'⟩
    exact ⟨canonicalBytes_eq_iff.mp (hbytes.trans hbytes'.symm), hj⟩
  · rintro ⟨hsame, hj⟩
    exact ⟨_, ⟨hj, rfl⟩, canonicalizes_of_same hsame ▸ hj, (canonicalBytes_eq_iff.mpr hsame).symm⟩

/-- **Canonical JSON is canonical, exactly when.**  Two payloads get equal bytes if and only if they
    are equal up to the order of keys and the sign of zero: this holds of payloads that differ, and
    of equal ones exactly if they are nested within the recursion limit and their integers are
    within the digit limit. -/
theorem canonicalJsonBytes_eq_iff (I : Interpreter) (j k : Payload) :
    (EqualBytes I j k ↔ Same j.val k.val) ↔
      (Same j.val k.val →
        j.val.height ≤ I.recursionLimit ∧ j.val.encodable = true) := by
  rw [equalBytes_iff, ← Interpreter.canonicalizes_iff]
  exact ⟨fun h hsame => (h.mpr hsame).2, fun h => ⟨And.left, fun hsame => ⟨hsame, h hsame⟩⟩⟩

namespace Sample

/-- An interpreter with the default limit of 1000 calls, a hundred of them its callers'. -/
def interpreter : Interpreter := ⟨900, by decide⟩

/-- `[[…[null]…]]`, a thousand lists. -/
def deepPayload : Payload := ⟨nestedLists 1000, wellFormed_nestedLists 1000⟩

end Sample

/-- **A thousand lists inside each other have no canonical bytes**, although they are equal to
    themselves: `_normalize_json` raises `RecursionError`. -/
theorem canonicalJsonBytes_fails :
    Same Sample.deepPayload.val Sample.deepPayload.val ∧
      canonicalJsonBytes Sample.interpreter Sample.deepPayload.val = .error .recursionError ∧
      ¬(EqualBytes Sample.interpreter Sample.deepPayload Sample.deepPayload ↔
        Same Sample.deepPayload.val Sample.deepPayload.val) := by
  have hsame : Same Sample.deepPayload.val Sample.deepPayload.val :=
    (canon_eq_iff _ _ Sample.deepPayload.property Sample.deepPayload.property).mp rfl
  have hdeep : Sample.interpreter.recursionLimit < Sample.deepPayload.val.height := by
    rw [Sample.deepPayload, height_nestedLists]
    decide
  have hraises : canonicalJsonBytes Sample.interpreter Sample.deepPayload.val =
      .error .recursionError := by
    rw [canonicalJsonBytes, canonicalJsonText, if_pos hdeep]
    rfl
  refine ⟨hsame, hraises, fun h => ?_⟩
  obtain ⟨bytes, hbytes, -⟩ := h.mpr hsame
  rw [hraises] at hbytes
  cases hbytes

end AEControl.Evidence
