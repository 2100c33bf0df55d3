/-
  Insertion-ordered dictionaries: a list of items whose keys are distinct.

  `set` overwrites a key where it stands and appends a new one, so iteration is in the order of
  first insertion (Mathlib's `AList.insert` moves the key to the front instead).  `ofPairs` is the
  dictionary a comprehension builds: the last pair of a key wins, at the first one's place.
  `groupBy` is a partition (`groupBy_perm`), so a sum may be taken group by group (`sum_groupBy`).
  `bump` adds to one counter and leaves the others (`count_bump`).

  `Rel` is for comparing two dictionaries built from lists that agree entry by entry: the results
  agree entry by entry again (`rel_ofPairs`, `rel_groupBy`).
-/
import Mathlib.Data.List.Nodup
import Mathlib.Data.List.Forall2
import Mathlib.Data.List.Sort
import Mathlib.Algebra.BigOperators.Group.List.Basic

namespace AEControl

/-- A dictionary in insertion order. -/
structure Dict (κ α : Type*) where
  items : List (κ × α)
  nodup : (items.map Prod.fst).Nodup

namespace Dict

variable {κ α β : Type*}

def empty : Dict κ α := ⟨[], List.nodup_nil⟩

/-- `d.keys()`. -/
def keys (d : Dict κ α) : List κ := d.items.map Prod.fst

section
variable [DecidableEq κ]

/-- `d.get(k)`. -/
def get (d : Dict κ α) (k : κ) : Option α := (d.items.find? fun p => p.1 = k).map Prod.snd

/-- The items after `d[k] = v`. -/
def setItems (k : κ) (v : α) : List (κ × α) → List (κ × α)
  | [] => [(k, v)]
  | p :: rest => if p.1 = k then (k, v) :: rest else p :: setItems k v rest

/-- Setting a key adds that key and drops none. -/
theorem mem_keys_setItems {k : κ} {v : α} {items : List (κ × α)} {x : κ} :
    x ∈ (setItems k v items).map Prod.fst ↔ x = k ∨ x ∈ items.map Prod.fst := by
  induction items with
  | nil => simp [setItems]
  | cons p rest ih =>
    unfold setItems
    by_cases hp : p.1 = k
    · simp [hp]
    · rw [if_neg hp, List.map_cons, List.mem_cons, ih, List.map_cons, List.mem_cons]
      tauto

/-- Setting a key adds no second item under it. -/
theorem nodup_setItems {k : κ} {v : α} {items : List (κ × α)}
    (h : (items.map Prod.fst).Nodup) : ((setItems k v items).map Prod.fst).Nodup := by
  induction items with
  | nil => simp [setItems]
  | cons p rest ih =>
    obtain ⟨hp, hrest⟩ := List.nodup_cons.mp h
    unfold setItems
    by_cases hk : p.1 = k
    · rw [if_pos hk, List.map_cons, List.nodup_cons]
      exact ⟨hk ▸ hp, hrest⟩
    · rw [if_neg hk, List.map_cons, List.nodup_cons, mem_keys_setItems, not_or]
      exact ⟨⟨hk, hp⟩, ih hrest⟩

/-- `d[k] = v`. -/
def set (d : Dict κ α) (k : κ) (v : α) : Dict κ α := ⟨setItems k v d.items, nodup_setItems d.nodup⟩

/-- `{k: v for k, v in pairs}`. -/
def ofPairs (pairs : List (κ × α)) : Dict κ α := pairs.foldl (fun d p => d.set p.1 p.2) empty

/-- `defaultdict(list)` filled by `d[key(x)].append(x)` for each `x` in turn. -/
def groupBy (key : α → κ) (xs : List α) : Dict κ (List α) :=
  xs.foldl (fun d x => d.set (key x) ((d.get (key x)).getD [] ++ [x])) empty

/-! ## Reading -/

/-- The item that is set is found under its key. -/
theorem find_setItems_self (k : κ) (v : α) (items : List (κ × α)) :
    (setItems k v items).find? (fun p => p.1 = k) = some (k, v) := by
  induction items with
  | nil => simp [setItems]
  | cons p rest ih =>
    unfold setItems
    by_cases hk : p.1 = k
    · rw [if_pos hk, List.find?_cons_of_pos (by simp)]
    · rw [if_neg hk, List.find?_cons_of_neg (by simpa using hk), ih]

/-- Reading the key that was set gives its new value. -/
@[simp] theorem get_set_self (d : Dict κ α) (k : κ) (v : α) : (d.set k v).get k = some v := by
  rw [get, set, find_setItems_self]
  rfl

/-- Setting a key leaves the item under every other one. -/
theorem find_setItems_of_ne {k x : κ} (hne : x ≠ k) (v : α) (items : List (κ × α)) :
    (setItems k v items).find? (fun p => p.1 = x) = items.find? (fun p => p.1 = x) := by
  induction items with
  | nil => simp [setItems, Ne.symm hne]
  | cons p rest ih =>
    unfold setItems
    by_cases hk : p.1 = k
    · have hx : ¬ p.1 = x := fun he => hne (he.symm.trans hk)
      rw [if_pos hk, List.find?_cons_of_neg (by simpa using Ne.symm hne),
        List.find?_cons_of_neg (by simpa using hx)]
    · rw [if_neg hk, List.find?_cons, List.find?_cons, ih]

/-- Reading another key gives what it gave before. -/
theorem get_set_of_ne {k x : κ} (hne : x ≠ k) (d : Dict κ α) (v : α) :
    (d.set k v).get x = d.get x := by
  rw [get, get, set, find_setItems_of_ne hne]

/-- What is read was set just now or is from before. -/
theorem get_set_cases {d : Dict κ α} {k x : κ} {v w : α} (h : (d.set k v).get x = some w) :
    (x = k ∧ w = v) ∨ (x ≠ k ∧ d.get x = some w) := by
  by_cases hx : x = k
  · subst hx
    rw [get_set_self] at h
    exact Or.inl ⟨rfl, (Option.some.inj h).symm⟩
  · rw [get_set_of_ne hx] at h
    exact Or.inr ⟨hx, h⟩

/-- The keys are the old ones and the one that was set. -/
theorem mem_keys_set {d : Dict κ α} {k x : κ} {v : α} :
    x ∈ (d.set k v).keys ↔ x = k ∨ x ∈ d.keys := mem_keys_setItems

/-- Nothing is read exactly under a key that is not there. -/
theorem get_eq_none {d : Dict κ α} {k : κ} : d.get k = none ↔ k ∉ d.keys := by
  simp only [get, Option.map_eq_none_iff, List.find?_eq_none, keys, List.mem_map, decide_eq_true_eq,
    not_exists, not_and]

/-- Keys are distinct, so an item is what its key reads. -/
theorem get_of_mem {d : Dict κ α} {k : κ} {v : α} (h : (k, v) ∈ d.items) : d.get k = some v := by
  obtain ⟨items, hnodup⟩ := d
  show (items.find? fun p => p.1 = k).map Prod.snd = some v
  induction items with
  | nil => simp at h
  | cons p rest ih =>
    obtain ⟨hp, hrest⟩ := List.nodup_cons.mp hnodup
    rcases List.mem_cons.mp h with rfl | h
    · simp
    · have hne : p.1 ≠ k := fun he => hp (he ▸ List.mem_map_of_mem (f := Prod.fst) h)
      rw [List.find?_cons_of_neg (by simpa using hne)]
      exact ih hrest h

/-- What is read is an item. -/
theorem mem_of_get {d : Dict κ α} {k : κ} {v : α} (h : d.get k = some v) : (k, v) ∈ d.items := by
  obtain ⟨p, hp, rfl⟩ := Option.map_eq_some_iff.mp h
  have hkey := List.find?_some hp
  obtain rfl : p.1 = k := of_decide_eq_true hkey
  exact List.mem_of_find?_eq_some hp

/-- The key that something is read under is there. -/
theorem mem_keys_of_get {d : Dict κ α} {k : κ} {v : α} (h : d.get k = some v) : k ∈ d.keys :=
  List.mem_map_of_mem (f := Prod.fst) (mem_of_get h)

/-- A new key comes last. -/
theorem setItems_of_new {k : κ} {v : α} {items : List (κ × α)} (h : k ∉ items.map Prod.fst) :
    setItems k v items = items ++ [(k, v)] := by
  induction items with
  | nil => rfl
  | cons p rest ih =>
    obtain ⟨hp, hrest⟩ := not_or.mp (mt List.mem_cons.mpr h)
    rw [setItems, if_neg (Ne.symm hp), ih hrest]
    rfl

/-- Pairs with distinct keys are the items of their dictionary. -/
theorem ofPairs_items {pairs : List (κ × α)} (h : (pairs.map Prod.fst).Nodup) :
    (ofPairs pairs).items = pairs := by
  have hfold : ∀ (pairs : List (κ × α)) (d : Dict κ α),
      ((d.items ++ pairs).map Prod.fst).Nodup →
      (pairs.foldl (fun d p => d.set p.1 p.2) d).items = d.items ++ pairs := by
    intro pairs
    induction pairs with
    | nil => intro d _; exact (List.append_nil _).symm
    | cons p pairs ih =>
      intro d hd
      have hnew : p.1 ∉ d.items.map Prod.fst := by
        rw [List.map_append] at hd
        intro hmem
        exact (List.nodup_append.mp hd).2.2 _ hmem _ List.mem_cons_self rfl
      have hset : (d.set p.1 p.2).items = d.items ++ [p] := setItems_of_new hnew
      have hsplit : d.items ++ p :: pairs = (d.items ++ [p]) ++ pairs := by
        rw [List.append_assoc]
        rfl
      rw [List.foldl_cons, ih (d.set p.1 p.2) (by rw [hset, ← hsplit]; exact hd), hset, hsplit]
  exact hfold pairs empty h

/-- `{k: f(v) for k, v in d.items()}` reads what `d` reads. -/
theorem get_ofPairs_map (d : Dict κ α) (f : α → β) (k : κ) :
    (ofPairs (d.items.map fun p => (p.1, f p.2))).get k = (d.get k).map f := by
  have hnodup : ((d.items.map fun p => (p.1, f p.2)).map Prod.fst).Nodup := by
    rw [List.map_map]
    exact d.nodup
  rw [get, ofPairs_items hnodup, get, List.find?_map, Option.map_map, Option.map_map]
  rfl

/-- A comprehension adds no other keys. -/
theorem mem_of_mem_keys_ofPairs {pairs : List (κ × α)} {k : κ} (h : k ∈ (ofPairs pairs).keys) :
    k ∈ pairs.map Prod.fst := by
  have hfold : ∀ (pairs : List (κ × α)) (d : Dict κ α),
      k ∈ (pairs.foldl (fun d p => d.set p.1 p.2) d).keys →
        k ∈ d.keys ∨ k ∈ pairs.map Prod.fst := by
    intro pairs
    induction pairs with
    | nil => exact fun d hd => Or.inl hd
    | cons p pairs ih =>
      intro d hd
      rcases ih (d.set p.1 p.2) hd with hset | hrest
      · rcases mem_keys_set.mp hset with rfl | hkey
        · exact Or.inr List.mem_cons_self
        · exact Or.inl hkey
      · exact Or.inr (List.mem_cons_of_mem _ hrest)
  exact (hfold pairs empty h).resolve_left List.not_mem_nil

/-- A comprehension that loses no pair was given distinct keys. -/
theorem nodup_of_length_ofPairs {pairs : List (κ × α)}
    (h : pairs.length ≤ (ofPairs pairs).keys.length) : (pairs.map Prod.fst).Nodup := by
  have hsub : (ofPairs pairs).keys.Subperm (pairs.map Prod.fst) :=
    List.subperm_of_subset (ofPairs pairs).nodup fun _ hk => mem_of_mem_keys_ofPairs hk
  have hperm := hsub.perm_of_length_le (by rw [List.length_map]; exact h)
  exact hperm.nodup_iff.mp (ofPairs pairs).nodup

/-! ## Groups -/

/-- A group holds what has its key, in order; a key without values has no group. -/
theorem get_groupBy (key : α → κ) (xs : List α) (k : κ) :
    (groupBy key xs).get k =
      if xs.filter (key · = k) = [] then none else some (xs.filter (key · = k)) := by
  have hfold : ∀ (xs : List α) (d : Dict κ (List α)),
      (xs.foldl (fun d x => d.set (key x) ((d.get (key x)).getD [] ++ [x])) d).get k =
        if xs.filter (key · = k) = [] then d.get k
        else some ((d.get k).getD [] ++ xs.filter (key · = k)) := by
    intro xs
    induction xs with
    | nil => exact fun d => rfl
    | cons x xs ih =>
      intro d
      rw [List.foldl_cons, ih]
      by_cases hx : key x = k
      · rw [List.filter_cons_of_pos (by simpa using hx), if_neg (List.cons_ne_nil _ _), hx,
          get_set_self]
        split
        case isTrue hnil => rw [hnil]
        case isFalse => rw [Option.getD_some, List.append_assoc, List.singleton_append]
      · rw [List.filter_cons_of_neg (by simpa using hx), get_set_of_ne (Ne.symm hx)]
  exact hfold xs empty

/-- The groups, key by key. -/
theorem items_groupBy (key : α → κ) (xs : List α) :
    (groupBy key xs).items = (groupBy key xs).keys.map fun k => (k, xs.filter (key · = k)) := by
  unfold keys
  rw [List.map_map]
  refine (List.map_id _).symm.trans (List.map_congr_left fun p hp => ?_)
  have hget := get_of_mem (k := p.1) (v := p.2) hp
  rw [get_groupBy] at hget
  split at hget
  · cases hget
  · exact Prod.ext rfl (Option.some.inj hget).symm

/-- The groups are those of the elements, none is empty. -/
theorem mem_keys_groupBy {key : α → κ} {xs : List α} {k : κ} :
    k ∈ (groupBy key xs).keys ↔ ∃ x ∈ xs, key x = k := by
  rw [← not_iff_not, ← get_eq_none, get_groupBy]
  simp only [ite_eq_left_iff, reduceCtorEq, imp_false, not_not, List.filter_eq_nil_iff,
    decide_eq_true_eq, not_exists, not_and]

/-- One more value of a key joins its group. -/
theorem flatMap_setItems_perm (k : κ) (x : α) (items : List (κ × List α)) :
    ((setItems k (((items.find? fun p => p.1 = k).map Prod.snd).getD [] ++ [x]) items).flatMap
      Prod.snd).Perm (x :: items.flatMap Prod.snd) := by
  induction items with
  | nil => simp [setItems]
  | cons p rest ih =>
    unfold setItems
    by_cases hp : p.1 = k
    · rw [if_pos hp, List.find?_cons_of_pos (by simpa using hp)]
      show ((p.2 ++ [x]) ++ rest.flatMap Prod.snd).Perm (x :: (p.2 ++ rest.flatMap Prod.snd))
      rw [List.append_assoc]
      exact List.perm_middle
    · rw [if_neg hp, List.find?_cons_of_neg (by simpa using hp), List.flatMap_cons]
      exact (ih.append_left p.2).trans List.perm_middle

/-- **The groups are a partition** of what was grouped. -/
theorem groupBy_perm (key : α → κ) (xs : List α) :
    ((groupBy key xs).items.flatMap Prod.snd).Perm xs := by
  have hfold : ∀ (xs : List α) (d : Dict κ (List α)),
      ((xs.foldl (fun d x => d.set (key x) ((d.get (key x)).getD [] ++ [x])) d).items.flatMap
        Prod.snd).Perm (d.items.flatMap Prod.snd ++ xs) := by
    intro xs
    induction xs with
    | nil => intro d; rw [List.append_nil]; exact List.Perm.refl _
    | cons x xs ih =>
      intro d
      have hstep := flatMap_setItems_perm (key x) x d.items
      exact (ih _).trans ((hstep.append_right xs).trans List.perm_middle.symm)
  exact hfold xs empty

/-- What is summed group by group is summed over everything. -/
theorem sum_groupBy {M : Type*} [AddCommMonoid M] (key : α → κ) (xs : List α) (f : α → M) :
    ((groupBy key xs).items.map fun g => (g.2.map f).sum).sum = (xs.map f).sum := by
  have hflat : ∀ items : List (κ × List α),
      (items.map fun g => (g.2.map f).sum).sum = ((items.flatMap Prod.snd).map f).sum := by
    intro items
    induction items with
    | nil => rfl
    | cons g rest ih => rw [List.map_cons, List.sum_cons, ih, List.flatMap_cons, List.map_append,
        List.sum_append]
  rw [hflat]
  exact ((groupBy_perm key xs).map f).sum_eq

/-! ## Counters -/

/-- `d[k]`, of a `defaultdict(int)`. -/
def count (d : Dict κ ℤ) (k : κ) : ℤ := (d.get k).getD 0

/-- `d[k] += n`, of a `defaultdict(int)`. -/
def bump (d : Dict κ ℤ) (k : κ) (n : ℤ) : Dict κ ℤ := d.set k (d.count k + n)

/-- The empty counter counts everything as nothing. -/
@[simp] theorem count_empty (k : κ) : (empty : Dict κ ℤ).count k = 0 := rfl

/-- A bump adds to its key only. -/
theorem count_bump (d : Dict κ ℤ) (k x : κ) (n : ℤ) :
    (d.bump k n).count x = d.count x + if x = k then n else 0 := by
  unfold count bump
  by_cases hx : x = k
  · subst hx
    rw [get_set_self, if_pos rfl]
    rfl
  · rw [get_set_of_ne hx, if_neg hx, add_zero]

/-! ## Dictionaries that agree entry by entry -/

/-- Same key, related values. -/
def EntryRel (R : α → β → Prop) (p : κ × α) (q : κ × β) : Prop := p.1 = q.1 ∧ R p.2 q.2

/-- Same keys in the same order, related values. -/
def Rel (R : α → β → Prop) (d : Dict κ α) (e : Dict κ β) : Prop :=
  List.Forall₂ (EntryRel R) d.items e.items

variable {R : α → β → Prop}

omit [DecidableEq κ] in
/-- The empty dictionaries are related. -/
theorem Rel.empty : Rel R (Dict.empty : Dict κ α) (Dict.empty : Dict κ β) := List.Forall₂.nil

/-- Related dictionaries stay related when related values are set under one key. -/
theorem Rel.set {d : Dict κ α} {e : Dict κ β} (h : Rel R d e) (k : κ) {v : α} {w : β}
    (hvw : R v w) : Rel R (d.set k v) (e.set k w) := by
  have hitems : ∀ {l : List (κ × α)} {m : List (κ × β)}, List.Forall₂ (EntryRel R) l m →
      List.Forall₂ (EntryRel R) (setItems k v l) (setItems k w m) := by
    intro l m h
    induction h with
    | nil => exact List.Forall₂.cons ⟨rfl, hvw⟩ List.Forall₂.nil
    | @cons p q l m hpq hlm ih =>
      unfold setItems
      by_cases hk : p.1 = k
      · rw [if_pos hk, if_pos (hpq.1 ▸ hk)]
        exact List.Forall₂.cons ⟨rfl, hvw⟩ hlm
      · rw [if_neg hk, if_neg (hpq.1 ▸ hk)]
        exact List.Forall₂.cons hpq ih
  exact hitems h

/-- Related dictionaries read related values under a key, or none in both. -/
theorem Rel.get {d : Dict κ α} {e : Dict κ β} (h : Rel R d e) (k : κ) :
    Option.Rel R (d.get k) (e.get k) := by
  unfold Rel at h
  unfold Dict.get
  generalize d.items = l at h
  generalize e.items = m at h
  induction h with
  | nil => exact Option.Rel.none
  | @cons p q l m hpq _ ih =>
    by_cases hk : p.1 = k
    · rw [List.find?_cons_of_pos (by simpa using hk), List.find?_cons_of_pos
        (by simpa using hpq.1 ▸ hk)]
      exact Option.Rel.some hpq.2
    · rw [List.find?_cons_of_neg (by simpa using hk), List.find?_cons_of_neg
        (by simpa using hpq.1 ▸ hk)]
      exact ih

omit [DecidableEq κ] in
/-- Related dictionaries have the same keys in the same order. -/
theorem Rel.keys_eq {d : Dict κ α} {e : Dict κ β} (h : Rel R d e) : d.keys = e.keys := by
  unfold Rel at h
  unfold keys
  generalize d.items = l at h
  generalize e.items = m at h
  induction h with
  | nil => rfl
  | cons hpq _ ih => rw [List.map_cons, List.map_cons, hpq.1, ih]

/-- Lists of pairs that are related make related dictionaries. -/
theorem rel_ofPairs {ps : List (κ × α)} {qs : List (κ × β)}
    (h : List.Forall₂ (EntryRel R) ps qs) : Rel R (ofPairs ps) (ofPairs qs) := by
  refine List.rel_foldl (P := Rel R) ?_ Rel.empty h
  intro d e hde p q hpq
  show Rel R (d.set p.1 p.2) (e.set q.1 q.2)
  rw [hpq.1]
  exact hde.set q.1 hpq.2

/-- Elements that are related make related groups. -/
theorem rel_groupBy {f : α → κ} {g : β → κ} {xs : List α} {ys : List β}
    (h : List.Forall₂ (fun x y => f x = g y ∧ R x y) xs ys) :
    Rel (List.Forall₂ R) (groupBy f xs) (groupBy g ys) := by
  refine List.rel_foldl (P := Rel (List.Forall₂ R)) ?_ Rel.empty h
  intro d e hde x y hxy
  show Rel _ (d.set (f x) _) (e.set (g y) _)
  rw [hxy.1]
  refine hde.set (g y) (List.rel_append ?_ (List.Forall₂.cons hxy.2 List.Forall₂.nil))
  -- the group so far, or the empty list of a new key
  have hget := hde.get (g y)
  revert hget
  cases d.get (g y) <;> cases e.get (g y) <;> intro hget
  · exact List.Forall₂.nil
  · cases hget
  · cases hget
  · cases hget with
    | some hab => exact hab

end

end Dict

/-! ## Sorting by a key -/

/-- With distinct keys there is one sorted order. -/
theorem eq_of_perm_of_sorted {α κ : Type*} [PartialOrder κ] {key : α → κ} {l m : List α}
    (hkeys : (l.map key).Nodup) (h : l.Perm m) (hl : l.Pairwise fun a b => key a ≤ key b)
    (hm : m.Pairwise fun a b => key a ≤ key b) : l = m := by
  refine h.eq_of_pairwise (fun a b ha hb hab hba => ?_) hl hm
  exact List.inj_on_of_nodup_map hkeys ha (h.mem_iff.mpr hb) (le_antisymm hab hba)

/-! ### Sorting related lists -/

/-- Two lists related entry by entry, whose relation respects the orders, sort to related lists. -/
theorem forall₂_insertionSort {α β : Type*} {R : α → β → Prop} {r : α → α → Prop}
    {s : β → β → Prop} [DecidableRel r] [DecidableRel s]
    (hrs : ∀ a b a' b', R a b → R a' b' → (r a a' ↔ s b b')) {l : List α} {m : List β}
    (h : List.Forall₂ R l m) : List.Forall₂ R (l.insertionSort r) (m.insertionSort s) := by
  have hinsert : ∀ {a b} {l : List α} {m : List β}, R a b → List.Forall₂ R l m →
      List.Forall₂ R (l.orderedInsert r a) (m.orderedInsert s b) := by
    intro a b l m hab h
    induction h with
    | nil => exact List.Forall₂.cons hab List.Forall₂.nil
    | @cons a' b' l m hab' hlm ih =>
      by_cases hr : r a a'
      · rw [List.orderedInsert_cons_of_le _ _ hr,
          List.orderedInsert_cons_of_le _ _ ((hrs _ _ _ _ hab hab').mp hr)]
        exact List.Forall₂.cons hab (List.Forall₂.cons hab' hlm)
      · rw [List.orderedInsert_of_not_le _ _ hr,
          List.orderedInsert_of_not_le _ _ (mt (hrs _ _ _ _ hab hab').mpr hr)]
        exact List.Forall₂.cons hab' ih
  induction h with
  | nil => exact List.Forall₂.nil
  | cons hab _ ih => exact hinsert hab ih

end AEControl
