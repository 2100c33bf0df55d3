/-
  Statements on a table with a row trigger that may raise.

  A statement writes rows one after the other (`RowWrite`), each checked against the primary key
  at once; after all of them the trigger runs for each written row, in the same order.  What a
  write or a trigger raises undoes the whole statement.

  The mirror is exact (`MirrorsExactly`) when it is keyed and holds the images of the rows and
  nothing else.  The crux is `fire_exact`: one event keeps it so, a change of key included, since
  the new key is free or was the row's own.  `statement_exact` interleaves the two passes: the
  `i`-th trigger call finds the mirror of the table after `i` writes.
-/
import AEControl.Lib.Except
import AEControl.Lib.Mirror

namespace AEControl.Trigger

open Table Mirror

universe u

variable {α β : Type u} {κ κ' ε : Type*} [DecidableEq κ] [DecidableEq κ']

/-! ## Writes -/

/-- One row of an `INSERT`, an `UPDATE … SET set` or a `DELETE`. -/
inductive RowWrite (α : Type u) (κ' : Type*) where
  | insert (new : α)
  | update (k : κ') (set : α → α)
  | delete (k : κ')

/-- The table after one write, with what the trigger is told of it; a key that no row has is not
    written. -/
def applyWrite (pk : α → κ') (taken : ε) : RowWrite α κ' → List α →
    Except ε (List α × Option (RowEvent α))
  | .insert new, rows =>
    match lookup pk (pk new) rows with
    | some _ => .error taken
    | none => .ok (rows ++ [new], some (.insert new))
  | .update k set, rows =>
    match lookup pk k rows with
    | none => .ok (rows, none)
    | some old =>
      if pk (set old) ≠ k ∧ (lookup pk (pk (set old)) rows).isSome then .error taken
      else .ok (Table.update pk k (fun _ => true) set rows, some (.update old (set old)))
  | .delete k, rows =>
    match lookup pk k rows with
    | none => .ok (rows, none)
    | some old => .ok (rows.filter fun r => pk r ≠ k, some (.delete old))

/-- The rows of a statement, one after the other, and the events they make. -/
def applyWrites (pk : α → κ') (taken : ε) : List (RowWrite α κ') → List α →
    Except ε (List α × List (RowEvent α))
  | [], rows => .ok (rows, [])
  | w :: ws, rows => do
    let (rows, event) ← applyWrite pk taken w rows
    let (rows, events) ← applyWrites pk taken ws rows
    .ok (rows, event.toList ++ events)

/-! ## Triggers -/

variable (key : α → κ) (mirrorKey : β → κ) (image : α → Except ε β)

/-- The trigger function, for an image that may raise. -/
def fire (mirror : List β) : RowEvent α → Except ε (List β)
  | .delete old => .ok (erase mirrorKey (key old) mirror)
  | .insert new => do
    let b ← image new
    .ok (upsert mirrorKey b mirror)
  | .update old new => do
    let b ← image new
    let mirror := upsert mirrorKey b mirror
    .ok (if key old ≠ key new then erase mirrorKey (key old) mirror else mirror)

/-- A statement, with its triggers. -/
def statement (pk : α → κ') (taken : ε) (ws : List (RowWrite α κ')) (rows : List α)
    (mirror : List β) : Except ε (List α × List β) := do
  let (rows, events) ← applyWrites pk taken ws rows
  let mirror ← events.foldlM (fire key mirrorKey image) mirror
  .ok (rows, mirror)

/-- The mirror has one row for each row of the table, its image, and no others. -/
structure MirrorsExactly (rows : List α) (mirror : List β) : Prop where
  keyed : Keyed mirrorKey mirror
  total : ∀ r ∈ rows, ∃ b, image r = .ok b
  mem_iff : ∀ b, b ∈ mirror ↔ ∃ r ∈ rows, image r = .ok b

variable {key mirrorKey image}

/-! ## Upserts and deletes -/

theorem mem_upsert {row b : β} {rows : List β} :
    b ∈ upsert mirrorKey row rows ↔ b = row ∨ (b ∈ rows ∧ mirrorKey b ≠ mirrorKey row) := by
  unfold upsert
  split_ifs with hsome
  · obtain ⟨old, hold⟩ := Option.isSome_iff_exists.mp hsome
    obtain ⟨hmem, hkey⟩ := lookup_some hold
    unfold Table.update
    constructor
    · intro hb
      obtain ⟨x, hx, rfl⟩ := List.mem_map.mp hb
      split_ifs with hxk
      · exact Or.inl rfl
      · exact Or.inr ⟨hx, fun h => hxk ⟨h, rfl⟩⟩
    · rintro (rfl | ⟨hb, hne⟩)
      · exact List.mem_map.mpr ⟨old, hmem, if_pos ⟨hkey, rfl⟩⟩
      · exact List.mem_map.mpr ⟨b, hb, if_neg fun h => hne h.1⟩
  · have hnone : lookup mirrorKey (mirrorKey row) rows = none := by simpa using hsome
    have hfresh := lookup_none.mp hnone
    rw [List.mem_append, List.mem_singleton]
    constructor
    · rintro (hb | rfl)
      · exact Or.inr ⟨hb, hfresh b hb⟩
      · exact Or.inl rfl
    · rintro (rfl | ⟨hb, -⟩)
      · exact Or.inr rfl
      · exact Or.inl hb

theorem keyed_upsert {row : β} {rows : List β} (hk : Keyed mirrorKey rows) :
    Keyed mirrorKey (upsert mirrorKey row rows) := by
  unfold upsert
  split_ifs with hsome
  · -- the row takes the place of the one with its key
    have hkeys : (Table.update mirrorKey (mirrorKey row) (fun _ => true) (fun _ => row) rows).map
        mirrorKey = rows.map mirrorKey := by
      unfold Table.update
      rw [List.map_map]
      refine List.map_congr_left fun x _ => ?_
      show mirrorKey (if mirrorKey x = mirrorKey row ∧ true = true then row else x) = mirrorKey x
      split_ifs with hx
      · exact hx.1.symm
      · rfl
    unfold Keyed
    rw [hkeys]
    exact hk
  · refine hk.append_one (lookup_none.mp ?_)
    simpa using hsome

theorem mem_erase {k : κ} {b : β} {rows : List β} :
    b ∈ erase mirrorKey k rows ↔ b ∈ rows ∧ mirrorKey b ≠ k := by
  simp [erase]

theorem keyed_erase {k : κ} {rows : List β} (hk : Keyed mirrorKey rows) :
    Keyed mirrorKey (erase mirrorKey k rows) := hk.sublist List.filter_sublist

/-! ## One write -/

/-- An update by key writes the one row that has it. -/
theorem mem_update {pk : α → κ'} {rows : List α} (hk : Keyed pk rows) {old : α}
    (hold : old ∈ rows) (set : α → α) {x : α} :
    x ∈ Table.update pk (pk old) (fun _ => true) set rows ↔
      x = set old ∨ (x ∈ rows ∧ pk x ≠ pk old) := by
  unfold Table.update
  rw [List.mem_map]
  constructor
  · rintro ⟨r, hr, rfl⟩
    split_ifs with hkey
    · exact Or.inl (by rw [hk.eq_of_key hr hold hkey.1])
    · exact Or.inr ⟨hr, fun h => hkey ⟨h, rfl⟩⟩
  · rintro (rfl | ⟨hx, hne⟩)
    · exact ⟨old, hold, if_pos ⟨rfl, rfl⟩⟩
    · exact ⟨x, hx, if_neg fun h => hne h.1⟩

omit [DecidableEq κ'] in
/-- A row may be replaced by one whose key is its own or free. -/
theorem keyed_replaced {pk : α → κ'} {rows rows' : List α} {r r' : α} (hk : Keyed pk rows)
    (h : Replaced rows rows' r r') (hfree : pk r' = pk r ∨ ∀ x ∈ rows, pk x ≠ pk r') :
    Keyed pk rows' := by
  obtain ⟨l₁, l₂, rfl, rfl⟩ := h
  unfold Keyed at hk ⊢
  rw [List.map_append, List.map_cons] at hk ⊢
  obtain ⟨hr, hrest⟩ := List.nodup_cons.mp (List.nodup_middle.mp hk)
  refine List.nodup_middle.mpr (List.nodup_cons.mpr ⟨?_, hrest⟩)
  rcases hfree with hsame | hfree
  · rw [hsame]
    exact hr
  · intro hin
    rw [← List.map_append] at hin
    obtain ⟨x, hx, hxk⟩ := List.mem_map.mp hin
    refine hfree x ?_ hxk
    rcases List.mem_append.mp hx with hx | hx
    · exact List.mem_append_left _ hx
    · exact List.mem_append_right _ (List.mem_cons_of_mem _ hx)

/-- **What a write does to the rows**, by the event it makes. -/
inductive Written (pk : α → κ') (rows rows' : List α) : Option (RowEvent α) → Prop
  | none (hsame : rows' = rows) : Written pk rows rows' none
  | inserted {new : α} (hfresh : ∀ x ∈ rows, pk x ≠ pk new)
      (hmem : ∀ x, x ∈ rows' ↔ x = new ∨ x ∈ rows) : Written pk rows rows' (some (.insert new))
  | updated {old new : α} (hold : old ∈ rows)
      (hfree : pk new = pk old ∨ ∀ x ∈ rows, pk x ≠ pk new)
      (hmem : ∀ x, x ∈ rows' ↔ x = new ∨ (x ∈ rows ∧ pk x ≠ pk old)) :
      Written pk rows rows' (some (.update old new))
  | deleted {old : α} (hold : old ∈ rows) (hmem : ∀ x, x ∈ rows' ↔ x ∈ rows ∧ pk x ≠ pk old) :
      Written pk rows rows' (some (.delete old))

theorem applyWrite_written {pk : α → κ'} {taken : ε} {rows rows' : List α} (hk : Keyed pk rows)
    {w : RowWrite α κ'} {event : Option (RowEvent α)}
    (h : applyWrite pk taken w rows = .ok (rows', event)) :
    Keyed pk rows' ∧ Written pk rows rows' event := by
  cases w with
  | insert new =>
    simp only [applyWrite] at h
    cases hlookup : lookup pk (pk new) rows with
    | some old =>
      rw [hlookup] at h
      cases h
    | none =>
      rw [hlookup] at h
      obtain ⟨rfl, rfl⟩ := Prod.mk.inj (Except.ok.inj h)
      have hfresh := lookup_none.mp hlookup
      refine ⟨hk.append_one hfresh, .inserted hfresh fun x => ?_⟩
      rw [List.mem_append, List.mem_singleton, or_comm]
  | update k set =>
    simp only [applyWrite] at h
    cases hlookup : lookup pk k rows with
    | none =>
      rw [hlookup] at h
      obtain ⟨rfl, rfl⟩ := Prod.mk.inj (Except.ok.inj h)
      exact ⟨hk, .none rfl⟩
    | some old =>
      rw [hlookup] at h
      obtain ⟨hold, rfl⟩ := lookup_some hlookup
      simp only at h
      split_ifs at h with htaken
      obtain ⟨rfl, rfl⟩ := Prod.mk.inj (Except.ok.inj h)
      -- the new key is the one of the row, or free
      have hfree : pk (set old) = pk old ∨ ∀ x ∈ rows, pk x ≠ pk (set old) := by
        by_cases hkey : pk (set old) = pk old
        · exact Or.inl hkey
        · refine Or.inr (lookup_none.mp ?_)
          cases hnew : lookup pk (pk (set old)) rows with
          | none => rfl
          | some x => exact absurd ⟨hkey, by rw [hnew]; rfl⟩ htaken
      have hrep : Replaced rows (Table.update pk (pk old) (fun _ => true) set rows) old (set old) :=
        (update_of_match hk hold rfl rfl).1
      exact ⟨keyed_replaced hk hrep hfree, .updated hold hfree fun x => mem_update hk hold set⟩
  | delete k =>
    simp only [applyWrite] at h
    cases hlookup : lookup pk k rows with
    | none =>
      rw [hlookup] at h
      obtain ⟨rfl, rfl⟩ := Prod.mk.inj (Except.ok.inj h)
      exact ⟨hk, .none rfl⟩
    | some old =>
      rw [hlookup] at h
      obtain ⟨hold, rfl⟩ := lookup_some hlookup
      obtain ⟨rfl, rfl⟩ := Prod.mk.inj (Except.ok.inj h)
      exact ⟨hk.sublist List.filter_sublist, .deleted hold fun x => by simp⟩

/-! ## One event -/

section Exact

variable {pk : α → κ'} {rows rows' : List α} {mirror mirror' : List β}

/-- A deleted row's image goes, the others stay. -/
theorem erase_exact (himage : ∀ r b, image r = .ok b → mirrorKey b = key r)
    (hkey : ∀ r r', key r = key r' → pk r = pk r') (hk : Keyed pk rows)
    (hm : MirrorsExactly mirrorKey image rows mirror) {old : α} (hold : old ∈ rows)
    (hmem : ∀ x, x ∈ rows' ↔ x ∈ rows ∧ pk x ≠ pk old) :
    MirrorsExactly mirrorKey image rows' (erase mirrorKey (key old) mirror) := by
  refine ⟨keyed_erase hm.keyed, fun r hr => hm.total r ((hmem r).mp hr).1, fun b => ?_⟩
  rw [mem_erase, hm.mem_iff]
  constructor
  · rintro ⟨⟨r, hr, hb⟩, hne⟩
    refine ⟨r, (hmem r).mpr ⟨hr, fun hrk => hne ?_⟩, hb⟩
    rw [himage r b hb, hk.eq_of_key hr hold hrk]
  · rintro ⟨r, hr, hb⟩
    obtain ⟨hr, hrk⟩ := (hmem r).mp hr
    refine ⟨⟨r, hr, hb⟩, fun hbk => hrk (hkey r old ?_)⟩
    rw [← himage r b hb, hbk]

omit [DecidableEq κ'] in
/-- A new row's image is put in. -/
theorem insert_exact (himage : ∀ r b, image r = .ok b → mirrorKey b = key r)
    (hkey : ∀ r r', key r = key r' → pk r = pk r')
    (hm : MirrorsExactly mirrorKey image rows mirror) {new : α} {b' : β}
    (hb' : image new = .ok b') (hfresh : ∀ x ∈ rows, pk x ≠ pk new)
    (hmem : ∀ x, x ∈ rows' ↔ x = new ∨ x ∈ rows) :
    MirrorsExactly mirrorKey image rows' (upsert mirrorKey b' mirror) := by
  refine ⟨keyed_upsert hm.keyed, fun r hr => ?_, fun b => ?_⟩
  · rcases (hmem r).mp hr with rfl | hr
    · exact ⟨b', hb'⟩
    · exact hm.total r hr
  · rw [mem_upsert, hm.mem_iff]
    constructor
    · rintro (rfl | ⟨⟨r, hr, hb⟩, -⟩)
      · exact ⟨new, (hmem new).mpr (Or.inl rfl), hb'⟩
      · exact ⟨r, (hmem r).mpr (Or.inr hr), hb⟩
    · rintro ⟨r, hr, hb⟩
      rcases (hmem r).mp hr with rfl | hr
      · exact Or.inl (Except.ok.inj (hb.symm.trans hb'))
      · refine Or.inr ⟨⟨r, hr, hb⟩, fun hbk => hfresh r hr (hkey r new ?_)⟩
        rw [← himage r b hb, hbk, himage new b' hb']

/-- The image of a changed row takes the place of the old one, whose key goes if it changed. -/
theorem update_exact (himage : ∀ r b, image r = .ok b → mirrorKey b = key r)
    (hkey : ∀ r r', key r = key r' → pk r = pk r') (hk : Keyed pk rows)
    (hm : MirrorsExactly mirrorKey image rows mirror) {old new : α} {b' : β}
    (hb' : image new = .ok b') (hold : old ∈ rows)
    (hfree : pk new = pk old ∨ ∀ x ∈ rows, pk x ≠ pk new)
    (hmem : ∀ x, x ∈ rows' ↔ x = new ∨ (x ∈ rows ∧ pk x ≠ pk old)) :
    MirrorsExactly mirrorKey image rows' (if key old ≠ key new then
      erase mirrorKey (key old) (upsert mirrorKey b' mirror) else upsert mirrorKey b' mirror) := by
  -- which rows of the mirror stay, whether the key changed or not
  have hstays : ∀ b, b ∈ (if key old ≠ key new then
      erase mirrorKey (key old) (upsert mirrorKey b' mirror) else upsert mirrorKey b' mirror) ↔
      b = b' ∨ (b ∈ mirror ∧ mirrorKey b ≠ key new ∧ mirrorKey b ≠ key old) := by
    intro b
    have hbk : mirrorKey b' = key new := himage new b' hb'
    split_ifs with hchanged
    · rw [mem_erase, mem_upsert, hbk]
      constructor
      · rintro ⟨rfl | ⟨hb, hne⟩, hne'⟩
        · exact Or.inl rfl
        · exact Or.inr ⟨hb, hne, hne'⟩
      · rintro (rfl | ⟨hb, hne, hne'⟩)
        · exact ⟨Or.inl rfl, fun h => hchanged (h.symm.trans hbk)⟩
        · exact ⟨Or.inr ⟨hb, hne⟩, hne'⟩
    · have hsame : key old = key new := not_not.mp hchanged
      rw [mem_upsert, hbk, hsame, and_self]
  refine ⟨?_, fun r hr => ?_, fun b => ?_⟩
  · split_ifs
    · exact keyed_erase (keyed_upsert hm.keyed)
    · exact keyed_upsert hm.keyed
  · rcases (hmem r).mp hr with rfl | ⟨hr, -⟩
    · exact ⟨b', hb'⟩
    · exact hm.total r hr
  · rw [hstays, hm.mem_iff]
    constructor
    · rintro (rfl | ⟨⟨r, hr, hb⟩, -, hne⟩)
      · exact ⟨new, (hmem new).mpr (Or.inl rfl), hb'⟩
      · refine ⟨r, (hmem r).mpr (Or.inr ⟨hr, fun hrk => hne ?_⟩), hb⟩
        rw [himage r b hb, hk.eq_of_key hr hold hrk]
    · rintro ⟨r, hr, hb⟩
      rcases (hmem r).mp hr with rfl | ⟨hr, hrk⟩
      · exact Or.inl (Except.ok.inj (hb.symm.trans hb'))
      · refine Or.inr ⟨⟨r, hr, hb⟩, fun hbk => ?_, fun hbk => hrk (hkey r old ?_)⟩
        · -- the new key was free, or it is the old row's
          have hnew : pk r = pk new := hkey r new (by rw [← himage r b hb, hbk])
          rcases hfree with hsame | hfree
          · exact hrk (hnew.trans hsame)
          · exact hfree r hr hnew
        · rw [← himage r b hb, hbk]

/-- **One trigger call** keeps the mirror exact. -/
theorem fire_exact (himage : ∀ r b, image r = .ok b → mirrorKey b = key r)
    (hkey : ∀ r r', key r = key r' → pk r = pk r') (hk : Keyed pk rows)
    (hm : MirrorsExactly mirrorKey image rows mirror) {event : RowEvent α}
    (hw : Written pk rows rows' (some event))
    (h : fire key mirrorKey image mirror event = .ok mirror') :
    MirrorsExactly mirrorKey image rows' mirror' := by
  cases hw with
  | @inserted new hfresh hmem =>
    obtain ⟨b', hb', h⟩ := Raising.bind_ok h
    obtain rfl := Except.ok.inj h
    exact insert_exact himage hkey hm hb' hfresh hmem
  | @updated old new hold hfree hmem =>
    obtain ⟨b', hb', h⟩ := Raising.bind_ok h
    obtain rfl := Except.ok.inj h
    exact update_exact himage hkey hk hm hb' hold hfree hmem
  | @deleted old hold hmem =>
    obtain rfl := Except.ok.inj h
    exact erase_exact himage hkey hk hm hold hmem

/-! ## Statements -/

theorem applyWrites_keyed {taken : ε} {ws : List (RowWrite α κ')} (hk : Keyed pk rows)
    {events : List (RowEvent α)} (h : applyWrites pk taken ws rows = .ok (rows', events)) :
    Keyed pk rows' := by
  induction ws generalizing rows rows' events with
  | nil =>
    obtain ⟨rfl, -⟩ := Prod.mk.inj (Except.ok.inj h)
    exact hk
  | cons w ws ih =>
    obtain ⟨⟨rows₁, event⟩, hwrite, h⟩ := Raising.bind_ok h
    obtain ⟨⟨rows₂, rest⟩, hrest, h⟩ := Raising.bind_ok h
    obtain ⟨rfl, -⟩ := Prod.mk.inj (Except.ok.inj h)
    exact ih (applyWrite_written hk hwrite).1 hrest

/-- **The statement rule.**  Writes first and triggers after them, in the same order: the mirror is
    exact again at the end. -/
theorem writes_exact (himage : ∀ r b, image r = .ok b → mirrorKey b = key r)
    (hkey : ∀ r r', key r = key r' → pk r = pk r') {taken : ε} {ws : List (RowWrite α κ')}
    (hk : Keyed pk rows) (hm : MirrorsExactly mirrorKey image rows mirror)
    {events : List (RowEvent α)} (hwrites : applyWrites pk taken ws rows = .ok (rows', events))
    (hfires : events.foldlM (fire key mirrorKey image) mirror = .ok mirror') :
    MirrorsExactly mirrorKey image rows' mirror' := by
  induction ws generalizing rows rows' mirror events with
  | nil =>
    obtain ⟨rfl, rfl⟩ := Prod.mk.inj (Except.ok.inj hwrites)
    obtain rfl : mirror = mirror' := Except.ok.inj hfires
    exact hm
  | cons w ws ih =>
    obtain ⟨⟨rows₁, event⟩, hwrite, h⟩ := Raising.bind_ok hwrites
    obtain ⟨⟨rows₂, rest⟩, hrest, h⟩ := Raising.bind_ok h
    obtain ⟨rfl, rfl⟩ := Prod.mk.inj (Except.ok.inj h)
    obtain ⟨hk₁, hwritten⟩ := applyWrite_written hk hwrite
    cases event with
    | none =>
      cases hwritten with
      | none hsame =>
        subst hsame
        exact ih hk₁ hm hrest hfires
    | some event =>
      rw [Option.toList_some, List.singleton_append, List.foldlM_cons] at hfires
      obtain ⟨mirror₁, hfire, hfires⟩ := Raising.bind_ok hfires
      exact ih hk₁ (fire_exact himage hkey hk hm hwritten hfire) hrest hfires

/-- A statement that returns keeps the primary key and the mirror. -/
theorem statement_exact (himage : ∀ r b, image r = .ok b → mirrorKey b = key r)
    (hkey : ∀ r r', key r = key r' → pk r = pk r') {taken : ε} {ws : List (RowWrite α κ')}
    (hk : Keyed pk rows) (hm : MirrorsExactly mirrorKey image rows mirror)
    (h : statement key mirrorKey image pk taken ws rows mirror = .ok (rows', mirror')) :
    Keyed pk rows' ∧ MirrorsExactly mirrorKey image rows' mirror' := by
  obtain ⟨⟨rows₁, events⟩, hwrites, h⟩ := Raising.bind_ok h
  obtain ⟨mirror₁, hfires, h⟩ := Raising.bind_ok h
  obtain ⟨rfl, rfl⟩ := Prod.mk.inj (Except.ok.inj h)
  exact ⟨applyWrites_keyed hk hwrites, writes_exact himage hkey hk hm hwrites hfires⟩

/-! ## Backfills -/

omit [DecidableEq κ] [DecidableEq κ'] in
/-- The images of rows with distinct keys have distinct keys. -/
theorem keyed_images (himage : ∀ r b, image r = .ok b → mirrorKey b = key r)
    (hkey : ∀ r r', key r = key r' → pk r = pk r') (hk : Keyed pk rows) {images : List β}
    (h : rows.mapM image = .ok images) : Keyed mirrorKey images := by
  have hkeys : images.map mirrorKey = rows.map key := by
    have hrel := Raising.mapM_ok h
    clear h hk
    induction hrel with
    | nil => rfl
    | @cons r b rows images hb _ ih => rw [List.map_cons, List.map_cons, himage r b hb, ih]
  unfold Keyed
  rw [hkeys]
  have hpairs : rows.Pairwise fun r r' => pk r ≠ pk r' := List.pairwise_map.mp hk
  exact List.pairwise_map.mpr (hpairs.imp fun hne hsame => hne (hkey _ _ hsame))

omit [DecidableEq κ] in
theorem mem_images {images : List β} (h : rows.mapM image = .ok images) {b : β} :
    b ∈ images ↔ ∃ r ∈ rows, image r = .ok b := by
  have hrel := Raising.mapM_ok h
  constructor
  · intro hb
    exact Raising.forall₂_mem_right hrel hb
  · rintro ⟨r, hr, hb⟩
    obtain ⟨b', hb', hrb⟩ := Raising.forall₂_mem_left hrel hr
    rw [Except.ok.inj (hb.symm.trans hrb)]
    exact hb'

omit [DecidableEq κ] [DecidableEq κ'] in
/-- A mirror computed from all rows is exact. -/
theorem backfill_exact (himage : ∀ r b, image r = .ok b → mirrorKey b = key r)
    (hkey : ∀ r r', key r = key r' → pk r = pk r') (hk : Keyed pk rows) {images : List β}
    (h : rows.mapM image = .ok images) : MirrorsExactly mirrorKey image rows images := by
  refine ⟨keyed_images himage hkey hk h, fun r hr => ?_, fun b => mem_images h⟩
  obtain ⟨b, -, hb⟩ := Raising.forall₂_mem_left (Raising.mapM_ok h) hr
  exact ⟨b, hb⟩

omit [DecidableEq κ] [DecidableEq κ'] in
/-- **One row for each row.**  An exact mirror is the images of the rows, in some order. -/
theorem MirrorsExactly.perm (himage : ∀ r b, image r = .ok b → mirrorKey b = key r)
    (hkey : ∀ r r', key r = key r' → pk r = pk r') (hk : Keyed pk rows)
    (hm : MirrorsExactly mirrorKey image rows mirror) :
    ∃ images, rows.mapM image = .ok images ∧ mirror.Perm images := by
  obtain ⟨images, himages⟩ := Raising.mapM_of_forall hm.total
  refine ⟨images, himages, ?_⟩
  have hnodup : images.Nodup := (keyed_images himage hkey hk himages).of_map
  refine (List.perm_ext_iff_of_nodup hm.keyed.of_map hnodup).mpr fun b => ?_
  rw [hm.mem_iff, mem_images himages]

end Exact

end AEControl.Trigger
