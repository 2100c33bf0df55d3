/-
  A JSON value on its way through a JSONB column: `json.dumps`, the column, and `json.loads`.

  The column keeps a number as an exact decimal with its scale and prints it without an exponent.
  `json.loads` reads a token that is digits only as an `int`, and gives any other to `float()`.

  The crux is `canon_readBack_iff`: the value that comes back has the canonical form of the stored
  one exactly if all its floats are below `1e16` in absolute value.  Integers come back in any case.
-/
import AEControl.Lib.Decimal
import AEControl.Lib.JsonEquiv

namespace AEControl.Json

open Decimal

/-! ## Floats -/

/-- `float()` of a decimal literal: the nearest float is a function of its sign and its value. -/
structure FloatReader where
  nearest : Bool → ℚ → PyFloat
  zero : nearest false 0 = .zero
  negZero : nearest true 0 = .negZero

/-- The value of the float with a text. -/
def PyFloat.value (x : PyFloat) : ℚ := (read x.text).numeric.value

variable (F : FloatReader)

/-- A float of the interpreter: it is printed by its shortest digits, and read back from them. -/
def FloatReader.IsFloat (x : PyFloat) : Prop :=
  ∃ s : Shortest, x.text = s.literal.text ∧ F.nearest s.negative s.value = x

/-! ## The way through the column -/

/-- The token a JSONB column prints for a number token. -/
def jsonbToken (t : List Char) : List Char := (read t).numeric.literal.text

/-- `json.loads` of a number token. -/
def loadsNumber (t : List Char) : Json :=
  let l := read t
  if l.fraction = [] ∧ l.exponent = none then .int l.numeric.coefficient
  else .float (F.nearest l.negative l.numeric.value)

/-- The order of keys in the column: by length, then by bytes. -/
def columnOrder (fields : List (String × Json)) : List (String × Json) :=
  fields.insertionSort fun a b =>
    a.1.utf8ByteSize < b.1.utf8ByteSize ∨ (a.1.utf8ByteSize = b.1.utf8ByteSize ∧ a.1 ≤ b.1)

mutual

/-- What comes back for a value. -/
def readBack : Json → Json
  | null => null
  | bool b => bool b
  | int n => loadsNumber F (jsonbToken n.repr.toList)
  | float x => loadsNumber F (jsonbToken x.text)
  | str s => str s
  | arr items => arr (readBackItems items)
  | obj fields => obj (columnOrder (readBackFields fields))

def readBackItems : List Json → List Json
  | [] => []
  | x :: xs => readBack x :: readBackItems xs

def readBackFields : List (String × Json) → List (String × Json)
  | [] => []
  | (k, v) :: fs => (k, readBack v) :: readBackFields fs

end

mutual

/-- The floats in a value, at any depth. -/
def floats : Json → List PyFloat
  | float x => [x]
  | arr items => floatsItems items
  | obj fields => floatsFields fields
  | _ => []

def floatsItems : List Json → List PyFloat
  | [] => []
  | x :: xs => floats x ++ floatsItems xs

def floatsFields : List (String × Json) → List PyFloat
  | [] => []
  | (_, v) :: fs => floats v ++ floatsFields fs

end

/-! ## Numbers -/

/-- What `json.loads` makes of a printed `numeric`: its scale decides. -/
theorem loadsNumber_text (n : Numeric) : loadsNumber F n.literal.text =
    if n.scale = 0 then .int n.coefficient
    else .float (F.nearest (n.coefficient < 0) n.value) := by
  have hread : read n.literal.text = n.literal := read_text n.literal_valid
  have hfraction : n.literal.fraction = [] ↔ n.scale = 0 := by
    rw [← n.length_fraction, List.length_eq_zero_iff]
  have hexponent : n.literal.exponent = none := rfl
  unfold loadsNumber
  simp only [hread, hfraction, hexponent, and_true, n.numeric_literal]
  rfl

/-- An integer comes back. -/
theorem readBack_int (n : ℤ) : readBack F (int n) = int n := by
  rw [readBack, jsonbToken, repr_eq_text, Numeric.read_literal, loadsNumber_text]
  rfl

variable {F}

/-- The value of a float is that of its shortest digits. -/
theorem value_of_text {x : PyFloat} {s : Shortest} (h : x.text = s.literal.text) :
    x.value = s.value := by
  rw [PyFloat.value, h, read_text s.literal_valid]
  rfl

/-- **A float comes back as a float exactly if it is below `1e16`**, and then it is the same but for
    the sign of zero. -/
theorem canon_readBack_float {x : PyFloat} (h : F.IsFloat x) :
    canon (readBack F (float x)) = canon (float x) ↔ |x.value| < 10 ^ 16 := by
  obtain ⟨s, htext, hnearest⟩ := h
  have hback : readBack F (float x) = if s.literal.numeric.scale = 0
      then .int s.literal.numeric.coefficient
      else .float (F.nearest (s.literal.numeric.coefficient < 0) s.value) := by
    rw [readBack, jsonbToken, htext, read_text s.literal_valid, loadsNumber_text]
    rfl
  rw [hback, value_of_text htext, ← not_iff_not, ← s.scale_eq_zero_iff]
  constructor
  · intro hne
    by_contra hscale
    rw [if_neg hscale] at hne
    refine hne (canon_float_eq.mpr ?_)
    by_cases hzero : s.literal.numeric.coefficient = 0
    · -- a zero, whose sign is lost
      have hvalue : s.value = 0 := by
        rw [Shortest.value, Numeric.value, hzero, Int.cast_zero, zero_div]
      refine Or.inr ⟨?_, ?_⟩
      · rw [hvalue, hzero, show decide ((0 : ℤ) < 0) = false from rfl, F.zero]
        rfl
      · rw [← hnearest, hvalue]
        cases s.negative
        · rw [F.zero]
          rfl
        · rw [F.negZero]
          rfl
    · have hsign : decide (s.literal.numeric.coefficient < 0) = s.negative := by
        rw [← s.literal_negative, Bool.eq_iff_iff, decide_eq_true_iff]
        exact s.literal.coefficient_neg_iff hzero
      exact Or.inl (by rw [hsign, hnearest])
  · intro hscale
    rw [if_pos hscale]
    simp [canon]

/-! ## Values -/

/-- Fields with distinct keys in one order are the same if they are the same up to order. -/
theorem eq_of_perm_of_keys_eq {κ α : Type*} : ∀ {fs gs : List (κ × α)},
    fs.map Prod.fst = gs.map Prod.fst → (gs.map Prod.fst).Nodup → fs.Perm gs → fs = gs
  | [], gs, hkeys, _, _ => (List.map_eq_nil_iff.mp hkeys.symm).symm
  | f :: fs, [], hkeys, _, _ => by cases hkeys
  | f :: fs, g :: gs, hkeys, hnodup, hperm => by
    obtain ⟨hkey, hrest⟩ := List.cons.inj hkeys
    obtain ⟨hg, hnodup'⟩ := List.nodup_cons.mp hnodup
    have hfg : f = g := by
      rcases List.mem_cons.mp (hperm.mem_iff.mp List.mem_cons_self) with hfg | hmem
      · exact hfg
      · exact absurd (List.mem_map_of_mem hmem) (hkey ▸ hg)
    subst hfg
    rw [eq_of_perm_of_keys_eq hrest hnodup' ((List.perm_cons f).mp hperm)]

variable (F) in
theorem keys_readBackFields (fields : List (String × Json)) :
    (readBackFields F fields).map Prod.fst = fields.map Prod.fst := by
  induction fields with
  | nil => rfl
  | cons f fs ih =>
    obtain ⟨k, v⟩ := f
    rw [readBackFields, List.map_cons, List.map_cons, ih]

/-- The order of keys is no matter for what can be printed. -/
theorem encodable_readBack_obj (fields : List (String × Json)) :
    (readBack F (obj fields)).encodable = encodableFields (readBackFields F fields) := by
  rw [readBack, encodable, encodableFields_eq_all, encodableFields_eq_all]
  exact (List.perm_insertionSort _ _).all_eq

mutual

/-- A value that can be printed can be printed again, as long as its floats can. -/
theorem encodable_readBack : ∀ j : Json, j.encodable = true →
    (∀ x ∈ j.floats, (readBack F (float x)).encodable = true) → (readBack F j).encodable = true
  | null | bool _ | str _ => fun h _ => h
  | int n => fun h _ => by
    rw [readBack_int]
    exact h
  | float x => fun _ hfloats => hfloats x (by rw [floats]; exact List.mem_cons_self)
  | arr items => fun h hfloats => by
    rw [encodable] at h
    rw [floats] at hfloats
    rw [readBack, encodable]
    exact encodableItems_readBackItems items h hfloats
  | obj fields => fun h hfloats => by
    rw [encodable] at h
    rw [floats] at hfloats
    rw [encodable_readBack_obj]
    exact encodableFields_readBackFields fields h hfloats

theorem encodableItems_readBackItems : ∀ items : List Json, encodableItems items = true →
    (∀ x ∈ floatsItems items, (readBack F (float x)).encodable = true) →
    encodableItems (readBackItems F items) = true
  | [] => fun _ _ => rfl
  | x :: xs => fun h hfloats => by
    rw [encodableItems, Bool.and_eq_true] at h
    obtain ⟨hhead, htail⟩ := h
    rw [readBackItems, encodableItems, encodable_readBack x hhead fun y hy =>
        hfloats y (List.mem_append_left _ hy),
      encodableItems_readBackItems xs htail fun y hy => hfloats y (List.mem_append_right _ hy)]
    rfl

theorem encodableFields_readBackFields : ∀ fields : List (String × Json),
    encodableFields fields = true →
    (∀ x ∈ floatsFields fields, (readBack F (float x)).encodable = true) →
    encodableFields (readBackFields F fields) = true
  | [] => fun _ _ => rfl
  | (k, v) :: fs => fun h hfloats => by
    rw [encodableFields, Bool.and_eq_true] at h
    obtain ⟨hhead, htail⟩ := h
    rw [readBackFields, encodableFields, encodable_readBack v hhead fun y hy =>
        hfloats y (List.mem_append_left _ hy),
      encodableFields_readBackFields fs htail fun y hy => hfloats y (List.mem_append_right _ hy)]
    rfl

end

mutual

/-- The column keeps the nesting of a value. -/
theorem height_readBack (F : FloatReader) : ∀ j : Json, (readBack F j).height = j.height
  | null | bool _ | str _ => rfl
  | int n => by rw [readBack_int]
  | float x => by
    rw [readBack, loadsNumber]
    split <;> rfl
  | arr items => by rw [readBack, height, height, heightItems_readBackItems F items]
  | obj fields => by
    rw [readBack, columnOrder, height, height,
      heightFields_perm (List.perm_insertionSort _ _),
      heightFields_readBackFields F fields]

theorem heightItems_readBackItems (F : FloatReader) : ∀ items : List Json,
    heightItems (readBackItems F items) = heightItems items
  | [] => rfl
  | x :: xs => by
    rw [readBackItems, heightItems, heightItems, height_readBack F x,
      heightItems_readBackItems F xs]

theorem heightFields_readBackFields (F : FloatReader) : ∀ fields : List (String × Json),
    heightFields (readBackFields F fields) = heightFields fields
  | [] => rfl
  | (k, v) :: fs => by
    rw [readBackFields, heightFields, heightFields, height_readBack F v,
      heightFields_readBackFields F fs]

end

/-- An object comes back exactly if its fields do. -/
theorem canon_readBack_obj {fields : List (String × Json)}
    (hkeys : (fields.map Prod.fst).Nodup) :
    canon (readBack F (obj fields)) = canon (obj fields) ↔
      canonFields (readBackFields F fields) = canonFields fields := by
  have hperm : (canonFields (columnOrder (readBackFields F fields))).Perm
      (canonFields (readBackFields F fields)) := by
    rw [canonFields_eq_map, canonFields_eq_map]
    exact (List.perm_insertionSort _ _).map _
  have horder : sortFields (canonFields (columnOrder (readBackFields F fields))) =
      sortFields (canonFields (readBackFields F fields)) := by
    refine (sortFields_eq_of_perm ?_ hperm.symm).symm
    rwa [keys_canonFields, keys_readBackFields]
  rw [readBack, canon, canon, obj.injEq, horder]
  constructor
  · intro h
    have hperm : (canonFields (readBackFields F fields)).Perm (canonFields fields) :=
      (sortFields_perm _).symm.trans (h ▸ sortFields_perm _)
    refine eq_of_perm_of_keys_eq ?_ (by rwa [keys_canonFields]) hperm
    rw [keys_canonFields, keys_canonFields, keys_readBackFields]
  · exact fun h => by rw [h]

mutual

/-- **A value comes back exactly if its floats are below `1e16`**, up to the order of keys and the
    sign of zero. -/
theorem canon_readBack_iff : ∀ j : Json, WellFormed j → (∀ x ∈ j.floats, F.IsFloat x) →
    (canon (readBack F j) = canon j ↔ ∀ x ∈ j.floats, |x.value| < 10 ^ 16)
  | null, _, _ | bool _, _, _ | str _, _, _ => by simp [readBack, floats]
  | int n, _, _ => by simp [readBack_int, floats]
  | float x, _, hfloats => by
    rw [canon_readBack_float (hfloats x (by simp [floats])), floats]
    simp
  | arr items, hwell, hfloats => by
    rw [readBack, canon, canon, arr.injEq, canonItems_readBackItems_iff items hwell hfloats, floats]
  | obj fields, hwell, hfloats => by
    rw [canon_readBack_obj hwell.1, canonFields_readBackFields_iff fields hwell.2 hfloats, floats]

theorem canonItems_readBackItems_iff : ∀ items : List Json, WellFormedItems items →
    (∀ x ∈ floatsItems items, F.IsFloat x) →
    (canonItems (readBackItems F items) = canonItems items ↔
      ∀ x ∈ floatsItems items, |x.value| < 10 ^ 16)
  | [], _, _ => by simp [readBackItems, floatsItems]
  | x :: xs, hwell, hfloats => by
    have hhead := canon_readBack_iff x hwell.1 fun y hy =>
      hfloats y (List.mem_append_left _ hy)
    have htail := canonItems_readBackItems_iff xs hwell.2 fun y hy =>
      hfloats y (List.mem_append_right _ hy)
    rw [readBackItems, canonItems, canonItems, List.cons.injEq, hhead, htail, floatsItems,
      List.forall_mem_append]

theorem canonFields_readBackFields_iff : ∀ fields : List (String × Json),
    WellFormedFields fields → (∀ x ∈ floatsFields fields, F.IsFloat x) →
    (canonFields (readBackFields F fields) = canonFields fields ↔
      ∀ x ∈ floatsFields fields, |x.value| < 10 ^ 16)
  | [], _, _ => by simp [readBackFields, floatsFields]
  | (k, v) :: fs, hwell, hfloats => by
    have hhead := canon_readBack_iff v hwell.1 fun y hy =>
      hfloats y (List.mem_append_left _ hy)
    have htail := canonFields_readBackFields_iff fs hwell.2 fun y hy =>
      hfloats y (List.mem_append_right _ hy)
    rw [readBackFields, canonFields, canonFields, List.cons.injEq, Prod.mk.injEq, hhead, htail,
      floatsFields, List.forall_mem_append]
    simp

end

end AEControl.Json
