/-
  JSON values up to what a canonical text leaves out: the order of keys and the sign of zero.

  `Same` is that relation, by recursion on the values; a well-formed value has distinct keys and
  finite floats.  `canon_eq_iff`: well-formed values are the same exactly if their canonical forms
  are equal.  Its crux is that fields with distinct keys are as many as their keys, so that an
  object whose fields all have a partner in one with as many fields is the same one (`perm_of_partners`).
-/
import AEControl.Lib.Json

namespace AEControl.Json

/-- `value == 0` for a float. -/
def PyFloat.isZero (x : PyFloat) : Bool := x = zero || x = negZero

mutual

/-- The values are equal up to the order of keys and the sign of zero. -/
def Same : Json → Json → Prop
  | null, null => True
  | bool b, bool c => b = c
  | int m, int n => m = n
  | float x, float y => x = y ∨ (x.isZero = true ∧ y.isZero = true)
  | str s, str t => s = t
  | arr xs, arr ys => SameItems xs ys
  | obj fs, obj gs => fs.length = gs.length ∧ SameFields fs gs
  | _, _ => False

def SameItems : List Json → List Json → Prop
  | [], [] => True
  | x :: xs, y :: ys => Same x y ∧ SameItems xs ys
  | _, _ => False

/-- Every field has a partner of the same key and value. -/
def SameFields : List (String × Json) → List (String × Json) → Prop
  | [], _ => True
  | (k, v) :: fs, gs => (∃ w, (k, w) ∈ gs ∧ Same v w) ∧ SameFields fs gs

end

mutual

/-- Keys are distinct and floats finite, at any depth. -/
def WellFormed : Json → Prop
  | float x => x.isFinite = true
  | arr items => WellFormedItems items
  | obj fields => (fields.map Prod.fst).Nodup ∧ WellFormedFields fields
  | _ => True

def WellFormedItems : List Json → Prop
  | [] => True
  | x :: xs => WellFormed x ∧ WellFormedItems xs

def WellFormedFields : List (String × Json) → Prop
  | [] => True
  | (_, v) :: fs => WellFormed v ∧ WellFormedFields fs

end

/-- The values of well-formed fields are well formed. -/
theorem wellFormedFields_mem {fields : List (String × Json)} (h : WellFormedFields fields)
    {k : String} {v : Json} (hmem : (k, v) ∈ fields) : WellFormed v := by
  induction fields with
  | nil => cases hmem
  | cons f fs ih =>
    obtain ⟨k', v'⟩ := f
    rcases List.mem_cons.mp hmem with heq | hmem
    · obtain ⟨-, rfl⟩ := Prod.mk.inj heq
      exact h.1
    · exact ih h.2 hmem

/-- Fields are the same if every one of the first is the same as one of the second under its key. -/
theorem sameFields_iff {fs gs : List (String × Json)} :
    SameFields fs gs ↔ ∀ k v, (k, v) ∈ fs → ∃ w, (k, w) ∈ gs ∧ Same v w := by
  induction fs with
  | nil => simp [SameFields]
  | cons f fs ih =>
    obtain ⟨k, v⟩ := f
    rw [SameFields, ih]
    constructor
    · rintro ⟨hhead, htail⟩ k' v' hmem
      rcases List.mem_cons.mp hmem with heq | hmem
      · obtain ⟨rfl, rfl⟩ := Prod.mk.inj heq
        exact hhead
      · exact htail k' v' hmem
    · exact fun h => ⟨h k v List.mem_cons_self, fun k' v' hmem =>
        h k' v' (List.mem_cons_of_mem _ hmem)⟩

/-! ## Canonical forms -/

/-- Fields with distinct keys that are all among as many others are those. -/
theorem perm_of_partners {fs gs : List (String × Json)} (hf : (fs.map Prod.fst).Nodup)
    (hlen : fs.length = gs.length) (hsub : ∀ f ∈ fs, f ∈ gs) : fs.Perm gs :=
  (List.subperm_of_subset hf.of_map hsub).perm_of_length_le hlen.ge

/-- Two floats have one canonical form exactly if they are equal, or zeros. -/
theorem canon_float_eq {x y : PyFloat} :
    canon (float x) = canon (float y) ↔ x = y ∨ (x.isZero = true ∧ y.isZero = true) := by
  have hne : PyFloat.zero ≠ PyFloat.negZero := by decide
  simp only [canon, float.injEq, PyFloat.isZero, Bool.or_eq_true, decide_eq_true_eq]
  by_cases hx : x = PyFloat.negZero
  · by_cases hy : y = PyFloat.negZero
    · simp [hx, hy]
    · simp only [hx, hy, if_true, if_false, or_false, or_true, true_and]
      exact ⟨fun h => .inr h.symm, fun h => h.elim (fun h => absurd h.symm hy) Eq.symm⟩
  · by_cases hy : y = PyFloat.negZero
    · simp only [hx, hy, if_true, if_false, or_false, or_true, and_true, false_or]
    · simp only [hx, hy, if_false, or_false]
      exact ⟨.inl, fun h => h.elim id fun h => h.1.trans h.2.symm⟩

/-- An object is the same as another if their fields are, one by one. -/
theorem canon_obj_eq {fs gs : List (String × Json)} (hf : (fs.map Prod.fst).Nodup) : canon (obj fs) = canon (obj gs) ↔
      fs.length = gs.length ∧ ∀ k v, (k, v) ∈ fs → ∃ w, (k, w) ∈ gs ∧ canon v = canon w := by
  have hlen : ∀ l : List (String × Json), (canonFields l).length = l.length := fun l => by
    rw [canonFields_eq_map, List.length_map]
  simp only [canon, obj.injEq]
  constructor
  · intro h
    have hperm : (canonFields fs).Perm (canonFields gs) :=
      (sortFields_perm _).symm.trans (h ▸ sortFields_perm _)
    refine ⟨by rw [← hlen fs, hperm.length_eq, hlen], fun k v hmem => ?_⟩
    have hcanon : (k, canon v) ∈ canonFields gs := by
      refine hperm.mem_iff.mp ?_
      rw [canonFields_eq_map]
      exact List.mem_map.mpr ⟨(k, v), hmem, rfl⟩
    rw [canonFields_eq_map] at hcanon
    obtain ⟨⟨k', w⟩, hw, heq⟩ := List.mem_map.mp hcanon
    obtain ⟨rfl, hvw⟩ := Prod.mk.inj heq
    exact ⟨w, hw, hvw.symm⟩
  · rintro ⟨hlength, hpartner⟩
    have hkeys : ((canonFields fs).map Prod.fst).Nodup := by rwa [keys_canonFields]
    refine sortFields_eq_of_perm hkeys (perm_of_partners hkeys (by rw [hlen, hlen, hlength]) ?_)
    intro f hmem
    rw [canonFields_eq_map] at hmem ⊢
    obtain ⟨⟨k, v⟩, hv, rfl⟩ := List.mem_map.mp hmem
    obtain ⟨w, hw, hvw⟩ := hpartner k v hv
    exact List.mem_map.mpr ⟨(k, w), hw, by rw [hvw]⟩

mutual

/-- **Canonical forms are canonical**: well-formed values have one exactly if they are equal up to
    the order of keys and the sign of zero. -/
theorem canon_eq_iff : ∀ (j k : Json), WellFormed j → WellFormed k →
    (canon j = canon k ↔ Same j k)
  | null, k, _, _ => by cases k <;> simp [canon, Same]
  | bool b, k, _, _ => by cases k <;> simp [canon, Same]
  | int n, k, _, _ => by cases k <;> simp [canon, Same]
  | str s, k, _, _ => by cases k <;> simp [canon, Same]
  | float x, k, _, _ => by
    cases k with
    | float y => rw [canon_float_eq, Same]
    | null | bool _ | int _ | str _ | arr _ | obj _ => simp [canon, Same]
  | arr xs, k, hj, hk => by
    cases k with
    | arr ys =>
      rw [canon, canon, arr.injEq, Same]
      exact canonItems_eq_iff xs ys hj hk
    | null | bool _ | int _ | str _ | float _ | obj _ => simp [canon, Same]
  | obj fs, k, hj, hk => by
    cases k with
    | obj gs =>
      obtain ⟨hfs, hvalues⟩ := hj
      obtain ⟨-, hvalues'⟩ := hk
      rw [canon_obj_eq hfs, Same, sameFields_iff]
      refine and_congr_right fun _ => forall_congr' fun k => forall_congr' fun v =>
        imp_congr_right fun hmem => exists_congr fun w => and_congr_right fun hw => ?_
      exact canonField_eq_iff fs hvalues k v hmem w (wellFormedFields_mem hvalues' hw)
    | null | bool _ | int _ | str _ | float _ | arr _ => simp [canon, Same]

/-- Lists have one canonical form exactly if they are the same item by item. -/
theorem canonItems_eq_iff : ∀ (xs ys : List Json), WellFormedItems xs → WellFormedItems ys →
    (canonItems xs = canonItems ys ↔ SameItems xs ys)
  | [], [], _, _ => by simp [SameItems]
  | [], _ :: _, _, _ => by simp [canonItems, SameItems]
  | _ :: _, [], _, _ => by simp [canonItems, SameItems]
  | x :: xs, y :: ys, hx, hy => by
    rw [canonItems, canonItems, List.cons.injEq, SameItems, canon_eq_iff x y hx.1 hy.1,
      canonItems_eq_iff xs ys hx.2 hy.2]

/-- A field's value has the canonical form of another value exactly if the two are the same. -/
theorem canonField_eq_iff : ∀ (fs : List (String × Json)), WellFormedFields fs → ∀ k v,
    (k, v) ∈ fs → ∀ w, WellFormed w → (canon v = canon w ↔ Same v w)
  | [], _, _, _, hmem, _, _ => absurd hmem List.not_mem_nil
  | (k, v) :: fs, hfs, k', v', hmem, w, hw => by
    rcases List.mem_cons.mp hmem with heq | hmem
    · obtain ⟨-, rfl⟩ := Prod.mk.inj heq
      exact canon_eq_iff v' w hfs.1 hw
    · exact canonField_eq_iff fs hfs.2 k' v' hmem w hw

end

/-! ## What can be printed -/

/-- Fields are encodable if each of their values is. -/
theorem encodableFields_eq_all (fields : List (String × Json)) :
    encodableFields fields = fields.all fun f => f.2.encodable := by
  induction fields with
  | nil => rfl
  | cons f fs ih =>
    obtain ⟨k, v⟩ := f
    rw [encodableFields, ih, List.all_cons]

/-- Sorting the fields does not change whether they are encodable. -/
theorem encodableFields_sortFields (fields : List (String × Json)) :
    encodableFields (sortFields fields) = encodableFields fields := by
  rw [encodableFields_eq_all, encodableFields_eq_all]
  exact (sortFields_perm fields).all_eq

mutual

/-- A value can be printed exactly if its canonical form can. -/
theorem encodable_canon : ∀ j : Json, (canon j).encodable = j.encodable
  | null | bool _ | int _ | str _ => rfl
  | float x => by
    unfold canon
    split
    · rename_i hx
      rw [hx]
      rfl
    · rfl
  | arr items => encodableItems_canonItems items
  | obj fields => by
    rw [canon, encodable, encodableFields_sortFields, encodable]
    exact encodableFields_canonFields fields

/-- Items are encodable exactly if their canonical forms are. -/
theorem encodableItems_canonItems : ∀ items : List Json,
    encodableItems (canonItems items) = encodableItems items
  | [] => rfl
  | x :: xs => by
    rw [canonItems, encodableItems, encodableItems, encodable_canon x, encodableItems_canonItems xs]

/-- Fields are encodable exactly if their canonical forms are. -/
theorem encodableFields_canonFields : ∀ fields : List (String × Json),
    encodableFields (canonFields fields) = encodableFields fields
  | [] => rfl
  | (k, v) :: fs => by
    rw [canonFields, encodableFields, encodableFields, encodable_canon v,
      encodableFields_canonFields fs]

end

/-! ## Nesting -/

/-- The nesting of fields does not depend on their order. -/
theorem heightFields_perm {fs gs : List (String × Json)} (h : fs.Perm gs) :
    heightFields fs = heightFields gs := by
  induction h with
  | nil => rfl
  | cons f _ ih => rw [heightFields, heightFields, ih]
  | swap f g fs =>
    rw [heightFields, heightFields, heightFields, heightFields]
    exact max_left_comm _ _ _
  | trans _ _ ih ih' => exact ih.trans ih'

mutual

/-- A value is nested as its canonical form is. -/
theorem height_canon : ∀ j : Json, (canon j).height = j.height
  | null | bool _ | int _ | str _ | float _ => rfl
  | arr items => by rw [canon, height, height, heightItems_canonItems items]
  | obj fields => by
    rw [canon, height, height, heightFields_perm (sortFields_perm _),
      heightFields_canonFields fields]

/-- Items are as high as their canonical forms. -/
theorem heightItems_canonItems : ∀ items : List Json,
    heightItems (canonItems items) = heightItems items
  | [] => rfl
  | x :: xs => by
    rw [canonItems, heightItems, heightItems, height_canon x, heightItems_canonItems xs]

/-- Fields are as high as their canonical forms. -/
theorem heightFields_canonFields : ∀ fields : List (String × Json),
    heightFields (canonFields fields) = heightFields fields
  | [] => rfl
  | (k, v) :: fs => by
    rw [canonFields, heightFields, heightFields, height_canon v, heightFields_canonFields fs]

end

/-- Lists inside each other are well formed, for they have no keys. -/
theorem wellFormed_nestedLists (depth : ℕ) : WellFormed (nestedLists depth) := by
  induction depth with
  | zero => trivial
  | succ depth ih => exact ⟨ih, trivial⟩

end AEControl.Json
