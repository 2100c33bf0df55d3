/-
  Keyed tables: a table is a list of rows, `key` reads a row's primary key.

  `update` is SQL's `UPDATE … SET … WHERE key = k AND p`, `returning` the row its `RETURNING *`
  gives back, `lookup` is `SELECT … WHERE key = k`.  While keys are unique (`Keyed`) an update
  touches at most one row, and `update_cases` says so in the form every later proof uses:
  either nothing matched, or the table is the old one with one row replaced (`Replaced`).
-/
import Mathlib.Data.List.Nodup
import Mathlib.Data.List.Count
import Mathlib.Data.List.Sort

namespace AEControl.Table

variable {α κ : Type*} (key : α → κ)

/-- Primary key: no two rows share a key. -/
def Keyed (rows : List α) : Prop := (rows.map key).Nodup

/-- `SELECT * FROM rows WHERE key = k`. -/
def lookup [DecidableEq κ] (k : κ) (rows : List α) : Option α := rows.find? fun r => key r = k

/-- `UPDATE rows SET f WHERE key = k AND p`. -/
def update [DecidableEq κ] (k : κ) (p : α → Bool) (f : α → α) (rows : List α) : List α :=
  rows.map fun r => if key r = k ∧ p r = true then f r else r

/-- The row `RETURNING *` of that update gives back. -/
def returning [DecidableEq κ] (k : κ) (p : α → Bool) (f : α → α) (rows : List α) : Option α :=
  (rows.find? fun r => decide (key r = k) && p r).map f

/-- `rows'` is `rows` with the row `r` replaced by `r'` where it stands. -/
def Replaced (rows rows' : List α) (r r' : α) : Prop :=
  ∃ l₁ l₂, rows = l₁ ++ r :: l₂ ∧ rows' = l₁ ++ r' :: l₂

variable {key}

/-- A fresh key keeps the keys unique. -/
theorem Keyed.append_one {rows : List α} (hk : Keyed key rows) {r : α}
    (hr : ∀ x ∈ rows, key x ≠ key r) : Keyed key (rows ++ [r]) := by
  unfold Keyed
  rw [List.map_append]
  refine List.nodup_append.mpr ⟨hk, List.nodup_singleton _, ?_⟩
  intro k hk' k' hk''
  obtain ⟨x, hx, rfl⟩ := List.mem_map.mp hk'
  obtain rfl : k' = key r := by simpa using hk''
  exact hr x hx

/-- A part of a table has the table's primary key. -/
theorem Keyed.sublist {rows rows' : List α} (hk : Keyed key rows) (h : rows'.Sublist rows) :
    Keyed key rows' := List.Nodup.sublist (h.map key) hk

/-- A table in the other direction has the same keys. -/
theorem Keyed.reverse {rows : List α} (hk : Keyed key rows) : Keyed key rows.reverse := by
  unfold Keyed
  rw [List.map_reverse]
  exact List.nodup_reverse.mpr hk

/-- Rows in `ORDER BY` order: those up to a bound come first. -/
theorem filter_le_append_filter_lt {key : α → ℕ} {rows : List α}
    (h : rows.Pairwise fun r r' => key r ≤ key r') (bound : ℕ) :
    rows.filter (fun r => key r ≤ bound) ++ rows.filter (fun r => bound < key r) = rows := by
  induction rows with
  | nil => rfl
  | cons r rows ih =>
    obtain ⟨hr, hrows⟩ := List.pairwise_cons.mp h
    by_cases hle : key r ≤ bound
    · rw [List.filter_cons_of_pos (by simpa using hle), List.cons_append,
        List.filter_cons_of_neg (by simpa using hle), ih hrows]
    · -- once a row is beyond the bound, all later ones are
      have hall : ∀ x ∈ r :: rows, bound < key x := List.forall_mem_cons.mpr
        ⟨by omega, fun x hx => Nat.lt_of_lt_of_le (by omega) (hr x hx)⟩
      rw [List.filter_eq_nil_iff.mpr fun x hx => by simpa using hall x hx,
        List.filter_eq_self.mpr fun x hx => by simpa using hall x hx, List.nil_append]

/-- A row that comes last in the order is inserted behind the others. -/
theorem orderedInsert_append_one {key : α → ℕ} {rows : List α} {r x : α} (h : key x ≤ key r) :
    (rows ++ [r]).orderedInsert (fun a b => key a ≤ key b) x =
      rows.orderedInsert (fun a b => key a ≤ key b) x ++ [r] := by
  induction rows with
  | nil => simp [List.orderedInsert, h]
  | cons y rows ih =>
    rw [List.cons_append, List.orderedInsert, List.orderedInsert]
    split_ifs
    · rfl
    · rw [ih, List.cons_append]

/-- A row behind all others comes last in `ORDER BY` order. -/
theorem insertionSort_append_one {key : α → ℕ} {rows : List α} {r : α}
    (h : ∀ x ∈ rows, key x ≤ key r) :
    (rows ++ [r]).insertionSort (fun a b => key a ≤ key b) =
      rows.insertionSort (fun a b => key a ≤ key b) ++ [r] := by
  induction rows with
  | nil => rfl
  | cons x rows ih =>
    obtain ⟨hx, hrows⟩ := List.forall_mem_cons.mp h
    rw [List.cons_append, List.insertionSort_cons, List.insertionSort_cons, ih hrows,
      orderedInsert_append_one hx]

/-! ## Replacing one row -/

namespace Replaced

variable {rows rows' : List α} {r r' : α}

/-- The row that is replaced was in the table. -/
theorem mem_old (h : Replaced rows rows' r r') : r ∈ rows := by
  obtain ⟨l₁, l₂, rfl, rfl⟩ := h
  simp

/-- The row that replaces it is in the table afterwards. -/
theorem mem_new (h : Replaced rows rows' r r') : r' ∈ rows' := by
  obtain ⟨l₁, l₂, rfl, rfl⟩ := h
  simp

/-- What every old row and the new row satisfy, every row of the new table satisfies. -/
theorem forall_mem (h : Replaced rows rows' r r') {P : α → Prop} (hold : ∀ x ∈ rows, P x)
    (hnew : P r') : ∀ x ∈ rows', P x := by
  obtain ⟨l₁, l₂, rfl, rfl⟩ := h
  intro x hx
  rcases List.mem_append.mp hx with hx | hx
  · exact hold x (List.mem_append_left _ hx)
  · rcases List.mem_cons.mp hx with rfl | hx
    · exact hnew
    · exact hold x (List.mem_append_right _ (List.mem_cons_of_mem _ hx))

/-- An old row is still there, or it is the one that was replaced. -/
theorem mem_cases (h : Replaced rows rows' r r') {x : α} (hx : x ∈ rows) :
    x ∈ rows' ∨ x = r := by
  obtain ⟨l₁, l₂, rfl, rfl⟩ := h
  rcases List.mem_append.mp hx with hx | hx
  · exact Or.inl (List.mem_append_left _ hx)
  · rcases List.mem_cons.mp hx with rfl | hx
    · exact Or.inr rfl
    · exact Or.inl (List.mem_append_right _ (List.mem_cons_of_mem _ hx))

/-- A count changes by what the replaced row and its replacement contribute. -/
theorem countP_add (h : Replaced rows rows' r r') (q : α → Bool) :
    rows'.countP q + (if q r then 1 else 0) = rows.countP q + (if q r' then 1 else 0) := by
  obtain ⟨l₁, l₂, rfl, rfl⟩ := h
  simp only [List.countP_append, List.countP_cons]
  omega

/-- A replacement under the same key changes no key. -/
theorem keys_eq (h : Replaced rows rows' r r') (hkey : key r' = key r) :
    rows'.map key = rows.map key := by
  obtain ⟨l₁, l₂, rfl, rfl⟩ := h
  simp [hkey]

end Replaced

/-! ## Lookups -/

variable [DecidableEq κ]

/-- A row that is found is in the table, under the key. -/
theorem lookup_some {k : κ} {rows : List α} {r : α} (h : lookup key k rows = some r) :
    r ∈ rows ∧ key r = k := by
  refine ⟨List.mem_of_find?_eq_some h, ?_⟩
  have := List.find?_some h
  exact of_decide_eq_true this

/-- No row is found exactly if none has the key. -/
theorem lookup_none {k : κ} {rows : List α} :
    lookup key k rows = none ↔ ∀ r ∈ rows, key r ≠ k := by
  simp [lookup, List.find?_eq_none]

/-- Under a primary key, a row that is there is the row a lookup finds. -/
theorem lookup_of_mem {rows : List α} (hk : Keyed key rows) {r : α} (hr : r ∈ rows) :
    lookup key (key r) rows = some r := by
  induction rows with
  | nil => cases hr
  | cons x rows ih =>
    have hx : key x ∉ rows.map key ∧ (rows.map key).Nodup := List.nodup_cons.mp hk
    rcases List.mem_cons.mp hr with rfl | hr
    · simp [lookup]
    · have hne : key x ≠ key r := fun he => hx.1 (he ▸ List.mem_map_of_mem hr)
      have := ih hx.2 hr
      simpa [lookup, List.find?_cons, hne] using this

/-- Under a primary key, a key selects the one row that has it. -/
theorem Keyed.filter_eq_singleton {rows : List α} (hk : Keyed key rows) {r : α} (hr : r ∈ rows) :
    rows.filter (fun x => key x = key r) = [r] := by
  induction rows with
  | nil => cases hr
  | cons x rows ih =>
    have hx : key x ∉ rows.map key ∧ (rows.map key).Nodup := List.nodup_cons.mp hk
    rcases List.mem_cons.mp hr with rfl | hr
    · have hrest : rows.filter (fun x => key x = key r) = [] :=
        List.filter_eq_nil_iff.mpr fun y hy hyr =>
          hx.1 (of_decide_eq_true hyr ▸ List.mem_map_of_mem hy)
      rw [List.filter_cons_of_pos (by simp), hrest]
    · have hne : key x ≠ key r := fun he => hx.1 (he ▸ List.mem_map_of_mem hr)
      rw [List.filter_cons_of_neg (by simpa using hne), ih hx.2 hr]

/-- Two rows with one key are one row. -/
theorem Keyed.eq_of_key {rows : List α} (hk : Keyed key rows) {r r' : α} (hr : r ∈ rows)
    (hr' : r' ∈ rows) (he : key r = key r') : r = r' := by
  have h := lookup_of_mem hk hr
  rw [he, lookup_of_mem hk hr'] at h
  exact (Option.some.inj h).symm

/-! ## Updates -/

section Update

variable {k : κ} {p : α → Bool} {f : α → α} {rows : List α}

/-- A column an update does not write is the column it was. -/
theorem map_update {γ : Type*} {g : α → γ} (hf : ∀ r, g (f r) = g r) :
    (update key k p f rows).map g = rows.map g := by
  unfold update
  rw [List.map_map]
  refine List.map_congr_left fun r _ => ?_
  show g (if _ then f r else r) = g r
  split_ifs
  · exact hf r
  · rfl

/-- An update that leaves the keys keeps the table keyed. -/
theorem Keyed.update {κ' : Type*} {key' : α → κ'} (hk : Keyed key' rows)
    (hf : ∀ r, key' (f r) = key' r) : Keyed key' (update key k p f rows) := by
  unfold Keyed
  rw [map_update hf]
  exact hk

/-- An update of rows seen through a projection that keeps key, guard and new value. -/
theorem map_update_map {γ : Type*} {key' : γ → κ} {p' : γ → Bool} {f' : γ → γ} {g : α → γ}
    (hkey : ∀ r, key' (g r) = key r) (hp : ∀ r, p' (g r) = p r) (hf : ∀ r, f' (g r) = g (f r)) :
    (update key k p f rows).map g = update key' k p' f' (rows.map g) ∧
      (returning key k p f rows).map g = returning key' k p' f' (rows.map g) := by
  constructor
  · unfold update
    rw [List.map_map, List.map_map]
    refine List.map_congr_left fun r _ => ?_
    show g (if _ then f r else r) = if _ then f' (g r) else g r
    rw [hkey, hp, hf]
    split_ifs <;> rfl
  · unfold returning
    rw [List.find?_map, Option.map_map, Option.map_map]
    have hpred : ((fun r => decide (key' r = k) && p' r) ∘ g) =
        fun r => decide (key r = k) && p r := by
      funext r
      simp only [Function.comp_apply, hkey, hp]
    have hset : f' ∘ g = g ∘ f := by
      funext r
      exact hf r
    rw [hpred, hset]

/-- Where no row matches, an UPDATE changes nothing and returns none. -/
theorem update_of_no_match (h : ∀ r ∈ rows, key r = k → p r = false) :
    update key k p f rows = rows ∧ returning key k p f rows = none := by
  constructor
  · unfold update
    conv_rhs => rw [← List.map_id rows]
    refine List.map_congr_left fun r hr => ?_
    rw [if_neg]
    · rfl
    · rintro ⟨hrk, hp⟩
      rw [h r hr hrk] at hp
      cases hp
  · unfold returning
    rw [List.find?_eq_none.mpr]
    · rfl
    · intro r hr hm
      obtain ⟨hrk, hp⟩ : key r = k ∧ p r = true := by simpa using hm
      rw [h r hr hrk] at hp
      cases hp

/-- Where a row matches, an UPDATE replaces it and returns the new one. -/
theorem update_of_match (hk : Keyed key rows) {r : α} (hr : r ∈ rows) (hrk : key r = k)
    (hp : p r = true) :
    Replaced rows (update key k p f rows) r (f r) ∧
      returning key k p f rows = some (f r) := by
  induction rows with
  | nil => cases hr
  | cons x rows ih =>
    have hx : key x ∉ rows.map key ∧ (rows.map key).Nodup := List.nodup_cons.mp hk
    by_cases hxk : key x = k
    · -- the head carries the key: it is the row, and no other row matches
      obtain rfl : x = r := by
        rcases List.mem_cons.mp hr with rfl | hr
        · rfl
        · exact absurd (List.mem_map_of_mem (f := key) hr) (by rw [hrk, ← hxk]; exact hx.1)
      have hrest : ∀ y ∈ rows, key y = k → p y = false := fun y hy hyk =>
        absurd (List.mem_map_of_mem (f := key) hy) (by rw [hyk, ← hxk]; exact hx.1)
      refine ⟨⟨[], rows, rfl, ?_⟩, ?_⟩
      · have := (update_of_no_match (f := f) hrest).1
        simp only [update] at this
        simp [update, hxk, hp, this]
      · simp [returning, hxk, hp]
    · have hr' : r ∈ rows := by
        rcases List.mem_cons.mp hr with rfl | hr
        · exact absurd hrk hxk
        · exact hr
      obtain ⟨⟨l₁, l₂, he, hu⟩, hret⟩ := ih hx.2 hr'
      refine ⟨⟨x :: l₁, l₂, by rw [he]; rfl, ?_⟩, ?_⟩
      · rw [List.cons_append, ← hu]
        simp [update, hxk]
      · simpa [returning, List.find?_cons, hxk] using hret

/-- **The update rule.**  Under a primary key an update either matches nothing and leaves the
    table alone, or replaces the one row that matches and returns it. -/
theorem update_cases (hk : Keyed key rows) :
    ((∀ r ∈ rows, key r = k → p r = false) ∧ update key k p f rows = rows ∧
        returning key k p f rows = none) ∨
      ∃ r ∈ rows, key r = k ∧ p r = true ∧
        Replaced rows (update key k p f rows) r (f r) ∧
        returning key k p f rows = some (f r) := by
  by_cases h : ∃ r ∈ rows, key r = k ∧ p r = true
  · obtain ⟨r, hr, hrk, hp⟩ := h
    obtain ⟨hrep, hret⟩ := update_of_match (f := f) hk hr hrk hp
    exact Or.inr ⟨r, hr, hrk, hp, hrep, hret⟩
  · have hno : ∀ r ∈ rows, key r = k → p r = false := fun r hr hrk => by
      by_contra hp
      exact h ⟨r, hr, hrk, by simpa using hp⟩
    exact Or.inl ⟨hno, update_of_no_match hno⟩

/-- An update under one key is not seen under another. -/
theorem lookup_update_of_ne {k' : κ} (hne : k' ≠ k) (hf : ∀ r, key (f r) = key r) :
    lookup key k' (update key k p f rows) = lookup key k' rows := by
  have hkey : ∀ r, key (if key r = k ∧ p r = true then f r else r) = key r := by
    intro r
    split_ifs
    · exact hf r
    · rfl
  unfold lookup update
  rw [List.find?_map]
  have hpred : ((fun r => decide (key r = k')) ∘
      fun r => if key r = k ∧ p r = true then f r else r) = fun r => decide (key r = k') := by
    funext r
    simp only [Function.comp_apply, hkey]
  rw [hpred]
  -- the row found has the other key, so it was not written
  cases hfind : rows.find? fun r => decide (key r = k') with
  | none => rfl
  | some r =>
    have hrk : key r = k' := of_decide_eq_true (List.find?_some (p := fun r => decide (key r = k')) hfind)
    rw [Option.map_some, if_neg]
    rintro ⟨hrk', -⟩
    exact hne (hrk.symm.trans hrk')

end Update

/-- A row appended under one key is not seen under another. -/
theorem lookup_append_of_ne {k : κ} {rows : List α} {r : α} (hne : key r ≠ k) :
    lookup key k (rows ++ [r]) = lookup key k rows := by
  unfold lookup
  rw [List.find?_append, List.find?_cons_of_neg (by simpa using hne), List.find?_nil, Option.or_none]

end AEControl.Table
