/-
  The last administrator of a tenant cannot be revoked, and a revocation is final.

  `discipline` is the locking argument.  Whoever holds a tenant's row may rely on the tenant's keys
  (`Rely`): every write to a key locks the row of its tenant.  So the count a revocation makes after
  it locked the tenant is still right when it commits (`Revocable`), and a key it found unrevoked is
  unrevoked.  A tenant and its first key become visible together.

  Structure of the proof, over the locking discipline of `Lib.Locking`:
  1. `Good`, the invariant of the registry: the unique columns are, and every registered tenant has
     an administrator that is not revoked;
  2. `Rely`: what other transactions may do while the locks in `held` are held (`Rely.write`);
  3. `Prepared`: what a transaction has established by its statements so far, stable under `Rely`
     (`Prepared.stable`); each statement prepares the next one (`execute_proceed`), and a call that
     commits has prepared its writes (`execute_commit`);
  4. **the crux**, `Committable.good`: prepared writes keep an administrator for every tenant, since
     the count behind a revocation found a second one (`exists_other_admin`);
  5. `invariant_reached` and `keepsRevoked_reached` for every interleaving, `adminAccess` for both.
-/
import AEControl.Tenancy.Registry

namespace AEControl.Tenancy

open Evidence Table

/-! ## The invariant of the registry -/

/-- Key identifiers and digests are unique, and every tenant has an active administrator. -/
structure Good (db : Registry) : Prop where
  ids : Keyed KeyRow.id db.keys
  secrets : Keyed KeyRow.secret db.keys
  admin : ∀ tenant ∈ db.tenants, ∃ key ∈ db.keys, key.tenantId = tenant.tenantId ∧
    key.activeAdmin = true

/-- An empty registry has nobody to administer. -/
theorem Good.empty : Good .empty :=
  ⟨List.nodup_nil, List.nodup_nil, fun _ h => by cases h⟩

/-- A tenant is registered exactly if it has a row. -/
theorem registered_iff {db : Registry} {tenantId : String} :
    db.registered tenantId = true ↔ ∃ tenant ∈ db.tenants, tenant.tenantId.val = tenantId := by
  simp [Registry.registered]

/-- A key is free exactly if its identifier and its digest are. -/
theorem keyTaken_eq_false {db : Registry} {key : KeyRow} :
    db.keyTaken key = false ↔
      (∀ k ∈ db.keys, k.id ≠ key.id) ∧ ∀ k ∈ db.keys, k.secret ≠ key.secret := by
  unfold Registry.keyTaken
  simp only [List.any_eq_false, Bool.or_eq_true, decide_eq_true_eq, not_or]
  exact ⟨fun h => ⟨fun k hk => (h k hk).1, fun k hk => (h k hk).2⟩,
    fun h k hk => ⟨h.1 k hk, h.2 k hk⟩⟩

/-- An update of one row keeps a key that it does not set. -/
theorem keyed_map {α κ : Type*} {key : α → κ} {rows : List α} {f : α → α}
    (h : Keyed key rows) (hf : ∀ r, key (f r) = key r) : Keyed key (rows.map f) := by
  unfold Keyed
  rw [List.map_map, show key ∘ f = key from funext hf]
  exact h

/-! ## What a transaction relies on -/

/-- The locks of a write. -/
def Write.touches : Write → List Lock
  | .insertTenant row => [.tenant row.tenantId.val]
  | .insertKey row => [.tenant row.tenantId.val, .key row.id, .secret row.secret]
  | .insertQuota tenantId => [.tenant tenantId]
  | .revokeKey tenantId keyId _ _ => [.tenant tenantId, .key (tenantId, keyId)]
  | .setStatus tenantId _ _ _ => [.tenant tenantId]

/-- What the holder of some locks sees unchanged. -/
structure Rely (held : Lock → Prop) (db db' : Registry) : Prop where
  registered : ∀ t, held (.tenant t) → db'.registered t = db.registered t
  keys : ∀ key : KeyRow, held (.tenant key.tenantId.val) → (key ∈ db'.keys ↔ key ∈ db.keys)
  ids : ∀ id, held (.key id) → ((∃ k ∈ db'.keys, k.id = id) ↔ ∃ k ∈ db.keys, k.id = id)
  secrets : ∀ d, held (.secret d) → ((∃ k ∈ db'.keys, k.secret = d) ↔ ∃ k ∈ db.keys, k.secret = d)

/-- Nothing happening is within what others may do. -/
theorem Rely.refl (held : Lock → Prop) (db : Registry) : Rely held db db :=
  ⟨fun _ _ => rfl, fun _ _ => Iff.rfl, fun _ _ => Iff.rfl, fun _ _ => Iff.rfl⟩

/-- Two things others may do, one after the other, are within what they may do. -/
theorem Rely.trans {held : Lock → Prop} {db db' db'' : Registry} (h : Rely held db db')
    (h' : Rely held db' db'') : Rely held db db'' where
  registered := fun t ht => (h'.registered t ht).trans (h.registered t ht)
  keys := fun key hkey => (h'.keys key hkey).trans (h.keys key hkey)
  ids := fun id hid => (h'.ids id hid).trans (h.ids id hid)
  secrets := fun d hd => (h'.secrets d hd).trans (h.secrets d hd)

/-- A write to the tenants table alone. -/
theorem Rely.of_tenants {held : Lock → Prop} {db db' : Registry} (hkeys : db'.keys = db.keys)
    (h : ∀ t, held (.tenant t) → db'.registered t = db.registered t) : Rely held db db' where
  registered := h
  keys := fun _ _ => by rw [hkeys]
  ids := fun _ _ => by rw [hkeys]
  secrets := fun _ _ => by rw [hkeys]

/-- A new row registers its tenant and no other. -/
theorem registered_insertTenant {db : Registry} {row : TenantRow} {t : String} :
    (db.apply (.insertTenant row)).registered t =
      (db.registered t || decide (row.tenantId.val = t)) := by
  simp [Registry.registered, Registry.apply]

/-- A change of status registers nobody. -/
theorem registered_setStatus {db : Registry} {tenantId t : String} {status : TenantStatus}
    {now : Timestamp} {updatedBy : String} :
    (db.apply (.setStatus tenantId status now updatedBy)).registered t = db.registered t := by
  unfold Registry.registered Registry.apply Table.update
  rw [List.any_map]
  congr 1
  funext r
  simp only [Function.comp_apply]
  split <;> rfl

/-- A revocation replaces rows of one key by rows of that key. -/
theorem mem_revoke {db : Registry} {tenantId keyId : String} {now : Timestamp} {revokedBy : String}
    {key : KeyRow} (hne : key.id ≠ (tenantId, keyId)) :
    key ∈ (db.apply (.revokeKey tenantId keyId now revokedBy)).keys ↔ key ∈ db.keys := by
  unfold Registry.apply Table.update
  simp only [List.mem_map, and_true]
  constructor
  · rintro ⟨k, hk, rfl⟩
    by_cases hid : k.id = (tenantId, keyId)
    · rw [if_pos hid] at hne
      exact absurd hid hne
    · rw [if_neg hid]
      exact hk
  · intro hkey
    exact ⟨key, hkey, if_neg hne⟩

/-- A revocation changes neither identifiers nor digests. -/
theorem revoke_column {β : Type*} {db : Registry} {tenantId keyId : String} {now : Timestamp}
    {revokedBy : String} {column : KeyRow → β}
    (h : ∀ k : KeyRow, column (k.revoke now revokedBy) = column k) :
    ∀ b, (∃ k ∈ (db.apply (.revokeKey tenantId keyId now revokedBy)).keys, column k = b) ↔
      ∃ k ∈ db.keys, column k = b := by
  intro b
  unfold Registry.apply Table.update
  simp only [List.mem_map, exists_exists_and_eq_and]
  refine exists_congr fun k => and_congr_right fun _ => ?_
  split
  · rw [h k]
  · rfl

/-- **A write is no business of whoever holds none of its locks.** -/
theorem Rely.write {held : Lock → Prop} {db : Registry} {w : Write}
    (h : ∀ l ∈ w.touches, ¬held l) : Rely held db (db.apply w) := by
  cases w with
  | insertTenant row =>
    refine Rely.of_tenants rfl fun t ht => ?_
    have hne : row.tenantId.val ≠ t := by
      rintro rfl
      exact h _ List.mem_cons_self ht
    rw [registered_insertTenant, decide_eq_false hne, Bool.or_false]
  | insertQuota tenantId => exact Rely.of_tenants rfl fun _ _ => rfl
  | setStatus tenantId status now updatedBy =>
    exact Rely.of_tenants rfl fun _ _ => registered_setStatus
  -- a new key matters to whoever holds its tenant, its identifier or its digest
  | insertKey row =>
    simp only [Write.touches, List.forall_mem_cons, List.not_mem_nil, false_implies,
      implies_true, and_true] at h
    obtain ⟨htenant, hid, hsecret⟩ := h
    have hmem : ∀ k, k ∈ (db.apply (.insertKey row)).keys ↔ k ∈ db.keys ∨ k = row := fun k => by
      simp [Registry.apply]
    refine ⟨fun _ _ => rfl, fun key hkey => ?_, fun id hheld => ?_, fun d hheld => ?_⟩
    · rw [hmem, or_iff_left]
      rintro rfl
      exact htenant hkey
    · simp only [hmem, or_and_right, exists_or, exists_eq_left]
      rw [or_iff_left]
      rintro rfl
      exact hid hheld
    · simp only [hmem, or_and_right, exists_or, exists_eq_left]
      rw [or_iff_left]
      rintro rfl
      exact hsecret hheld
  | revokeKey tenantId keyId now revokedBy =>
    refine ⟨fun _ _ => rfl, fun key hkey => mem_revoke ?_, fun id _ => revoke_column (fun _ => rfl) id,
      fun d _ => revoke_column (fun _ => rfl) d⟩
    intro hid
    obtain ⟨htenant, -⟩ := Prod.mk.inj hid
    rw [htenant] at hkey
    exact h _ List.mem_cons_self hkey

/-! ## What a transaction has established -/

/-- The tenant is new, and locked. -/
def FreshTenant (db : Registry) (held : Lock → Prop) (tenant : TenantRow) : Prop :=
  held (.tenant tenant.tenantId.val) ∧ db.registered tenant.tenantId.val = false

/-- The key is new, and its identifier and digest are locked. -/
def FreshKey (db : Registry) (held : Lock → Prop) (key : KeyRow) : Prop :=
  held (.key key.id) ∧ held (.secret key.secret) ∧
    (¬∃ k ∈ db.keys, k.id = key.id) ∧ ¬∃ k ∈ db.keys, k.secret = key.secret

/-- The key is there and unrevoked, and its tenant has another administrator. -/
def Revocable (db : Registry) (held : Lock → Prop) (tenantId keyId : String) : Prop :=
  held (.tenant tenantId) ∧
    (∃ key ∈ db.keys, key.id = (tenantId, keyId) ∧ key.revoked = none) ∧
    ∃ other ∈ db.keys, other.tenantId.val = tenantId ∧ other.activeAdmin = true ∧
      other.id ≠ (tenantId, keyId)

/-- Writes that may be committed. -/
inductive Committable (db : Registry) (held : Lock → Prop) : List Write → Prop where
  | nothing : Committable db held []
  | created {tenant : TenantRow} {key : KeyRow} {quota : String}
      (htenant : FreshTenant db held tenant) (hkey : FreshKey db held key)
      (hadmin : key.tenantId = tenant.tenantId ∧ key.activeAdmin = true) :
      Committable db held [.insertTenant tenant, .insertKey key, .insertQuota quota]
  | issued {key : KeyRow} (hkey : FreshKey db held key) : Committable db held [.insertKey key]
  | revoked {tenantId keyId : String} {now : Timestamp} {revokedBy : String}
      (h : Revocable db held tenantId keyId) :
      Committable db held [.revokeKey tenantId keyId now revokedBy]
  | status {tenantId : String} {status : TenantStatus} {now : Timestamp} {updatedBy : String} :
      Committable db held [.setStatus tenantId status now updatedBy]

/-- What a transaction has established before its next statement. -/
def Prepared (db : Registry) (held : Lock → Prop) (session : Session) (writes : List Write) : Prop :=
  match session with
  | .createInsertKey c tenant =>
    writes = [.insertTenant tenant] ∧ FreshTenant db held tenant ∧
      tenant.tenantId.val = c.tenantId
  | .createInsertQuota tenant key =>
    writes = [.insertTenant tenant, .insertKey key] ∧ FreshTenant db held tenant ∧
      FreshKey db held key ∧ key.tenantId = tenant.tenantId ∧ key.activeAdmin = true
  | .revokeLockKey c =>
    writes = [] ∧ held (.tenant c.tenantId) ∧ db.registered c.tenantId = true
  | .revokeCount c key =>
    writes = [] ∧ held (.tenant c.tenantId) ∧ db.registered c.tenantId = true ∧ key ∈ db.keys ∧
      key.id = (c.tenantId, c.keyId)
  | .revokeUpdate c administrators =>
    writes = [] ∧ (1 < administrators → Revocable db held c.tenantId c.keyId)
  | .leave outcome => Committable db held writes ∧ ((∃ e, outcome = .error e) → writes = [])
  | _ => writes = []

/-! ### Stability -/

section Stable

variable {db db' : Registry} {held held' : Lock → Prop}

/-- A fresh tenant stays one when more is locked. -/
theorem FreshTenant.mono {tenant : TenantRow} (hle : ∀ l, held l → held' l)
    (h : FreshTenant db held tenant) : FreshTenant db held' tenant := ⟨hle _ h.1, h.2⟩

/-- A fresh key stays one when more is locked. -/
theorem FreshKey.mono {key : KeyRow} (hle : ∀ l, held l → held' l) (h : FreshKey db held key) :
    FreshKey db held' key := ⟨hle _ h.1, hle _ h.2.1, h.2.2⟩

/-- A key that may be revoked stays one when more is locked. -/
theorem Revocable.mono {t k : String} (hle : ∀ l, held l → held' l) (h : Revocable db held t k) :
    Revocable db held' t k := ⟨hle _ h.1, h.2⟩

/-- Writes that may be committed stay so when more is locked. -/
theorem Committable.mono {writes : List Write} (hle : ∀ l, held l → held' l)
    (h : Committable db held writes) : Committable db held' writes := by
  cases h with
  | nothing => exact .nothing
  | created htenant hkey hadmin => exact .created (htenant.mono hle) (hkey.mono hle) hadmin
  | issued hkey => exact .issued (hkey.mono hle)
  | revoked h => exact .revoked (h.mono hle)
  | status => exact .status

/-- A prepared session stays prepared when more is locked. -/
theorem Prepared.mono {session : Session} {writes : List Write} (hle : ∀ l, held l → held' l)
    (h : Prepared db held session writes) : Prepared db held' session writes := by
  cases session with
  | createInsertKey c tenant => exact ⟨h.1, h.2.1.mono hle, h.2.2⟩
  | createInsertQuota tenant key => exact ⟨h.1, h.2.1.mono hle, h.2.2.1.mono hle, h.2.2.2⟩
  | revokeLockKey c => exact ⟨h.1, hle _ h.2.1, h.2.2⟩
  | revokeCount c key => exact ⟨h.1, hle _ h.2.1, h.2.2⟩
  | revokeUpdate c administrators => exact ⟨h.1, fun hlt => (h.2 hlt).mono hle⟩
  | leave outcome => exact ⟨h.1.mono hle, h.2⟩
  | _ => exact h

/-- A fresh tenant stays one whatever others do, for its identifier is locked. -/
theorem FreshTenant.stable {tenant : TenantRow} (hrely : Rely held db db')
    (h : FreshTenant db held tenant) : FreshTenant db' held tenant :=
  ⟨h.1, (hrely.registered _ h.1).trans h.2⟩

/-- A fresh key stays one whatever others do, for its identifier is locked. -/
theorem FreshKey.stable {key : KeyRow} (hrely : Rely held db db') (h : FreshKey db held key) :
    FreshKey db' held key := by
  obtain ⟨hid, hsecret, hnoId, hnoSecret⟩ := h
  exact ⟨hid, hsecret, fun hex => hnoId ((hrely.ids _ hid).mp hex),
    fun hex => hnoSecret ((hrely.secrets _ hsecret).mp hex)⟩

/-- Another administrator stays one whatever others do, as long as the tenant's row is locked. -/
theorem Revocable.stable {t k : String} (hrely : Rely held db db') (h : Revocable db held t k) :
    Revocable db' held t k := by
  obtain ⟨hheld, ⟨key, hkey, hid, hrevoked⟩, other, hother, htenant, hadmin, hne⟩ := h
  have hkeyTenant : key.tenantId.val = t := congrArg Prod.fst hid
  refine ⟨hheld, ⟨key, (hrely.keys key ?_).mpr hkey, hid, hrevoked⟩, other,
    (hrely.keys other ?_).mpr hother, htenant, hadmin, hne⟩
  · rw [hkeyTenant]
    exact hheld
  · rw [htenant]
    exact hheld

/-- Writes that may be committed stay so whatever others do. -/
theorem Committable.stable {writes : List Write} (hrely : Rely held db db')
    (h : Committable db held writes) : Committable db' held writes := by
  cases h with
  | nothing => exact .nothing
  | created htenant hkey hadmin => exact .created (htenant.stable hrely) (hkey.stable hrely) hadmin
  | issued hkey => exact .issued (hkey.stable hrely)
  | revoked h => exact .revoked (h.stable hrely)
  | status => exact .status

/-- A prepared session stays prepared whatever others do. -/
theorem Prepared.stable {session : Session} {writes : List Write} (hrely : Rely held db db')
    (h : Prepared db held session writes) : Prepared db' held session writes := by
  cases session with
  | createInsertKey c tenant => exact ⟨h.1, h.2.1.stable hrely, h.2.2⟩
  | createInsertQuota tenant key =>
    exact ⟨h.1, h.2.1.stable hrely, h.2.2.1.stable hrely, h.2.2.2⟩
  | revokeLockKey c =>
    obtain ⟨hwrites, hheld, hregistered⟩ := h
    exact ⟨hwrites, hheld, (hrely.registered _ hheld).trans hregistered⟩
  | revokeCount c key =>
    obtain ⟨hwrites, hheld, hregistered, hkey, hid⟩ := h
    have htenant : key.tenantId.val = c.tenantId := congrArg Prod.fst hid
    refine ⟨hwrites, hheld, (hrely.registered _ hheld).trans hregistered,
      (hrely.keys key ?_).mpr hkey, hid⟩
    rw [htenant]
    exact hheld
  | revokeUpdate c administrators => exact ⟨h.1, fun hlt => (h.2 hlt).stable hrely⟩
  | leave outcome => exact ⟨h.1.stable hrely, h.2⟩
  | _ => exact h

end Stable

/-! ## Commits -/

/-- A revocation keeps what every column but `revoked_at` and `revoked_by` says of uniqueness. -/
theorem keyed_revoke {β : Type*} {db : Registry} {tenantId keyId : String} {now : Timestamp}
    {revokedBy : String} {column : KeyRow → β} (h : Keyed column db.keys)
    (hcolumn : ∀ k : KeyRow, column (k.revoke now revokedBy) = column k) :
    Keyed column (db.apply (.revokeKey tenantId keyId now revokedBy)).keys := by
  refine keyed_map h fun k => ?_
  split
  · exact hcolumn k
  · rfl

/-- A fresh key breaks neither of the two unique columns. -/
theorem FreshKey.keyed {db : Registry} {held : Lock → Prop} {key : KeyRow} (hgood : Good db)
    (h : FreshKey db held key) :
    Keyed KeyRow.id (db.keys ++ [key]) ∧ Keyed KeyRow.secret (db.keys ++ [key]) :=
  ⟨hgood.ids.append_one fun k hk heq => h.2.2.1 ⟨k, hk, heq⟩,
    hgood.secrets.append_one fun k hk heq => h.2.2.2 ⟨k, hk, heq⟩⟩

/-- **A commit keeps an administrator for every tenant.** -/
theorem Committable.good {db : Registry} {held : Lock → Prop} {writes : List Write}
    (hgood : Good db) (h : Committable db held writes) : Good (registry.view db writes) := by
  have hkept : ∀ key : KeyRow, ∀ tenant ∈ db.tenants, ∃ k ∈ db.keys ++ [key],
      k.tenantId = tenant.tenantId ∧ k.activeAdmin = true := fun key tenant htenant => by
    obtain ⟨k, hk, hadmin⟩ := hgood.admin tenant htenant
    exact ⟨k, List.mem_append_left _ hk, hadmin⟩
  cases h with
  | nothing => exact hgood
  | @created tenant key quota htenant hkey hadmin =>
    obtain ⟨hids, hsecrets⟩ := hkey.keyed hgood
    refine ⟨hids, hsecrets, fun tenant' htenant' => ?_⟩
    rcases List.mem_append.mp htenant' with htenant' | htenant'
    · exact hkept key tenant' htenant'
    · obtain rfl := List.mem_singleton.mp htenant'
      exact ⟨key, List.mem_append_right _ (List.mem_singleton.mpr rfl), hadmin⟩
  | @issued key hkey =>
    obtain ⟨hids, hsecrets⟩ := hkey.keyed hgood
    exact ⟨hids, hsecrets, hkept key⟩
  | @revoked tenantId keyId now revokedBy hrevocable =>
    obtain ⟨-, -, other, hother, hothertenant, hotheradmin, hne⟩ := hrevocable
    refine ⟨keyed_revoke hgood.ids fun _ => rfl, keyed_revoke hgood.secrets fun _ => rfl,
      fun tenant htenant => ?_⟩
    obtain ⟨key, hkey, hkeytenant, hadmin⟩ := hgood.admin tenant htenant
    by_cases hid : key.id = (tenantId, keyId)
    · -- the administrator found is the revoked key: the other one is left
      have htenantId : key.tenantId.val = tenantId := congrArg Prod.fst hid
      refine ⟨other, (mem_revoke hne).mpr hother, ?_, hotheradmin⟩
      rw [← hkeytenant]
      exact Subtype.ext (hothertenant.trans htenantId.symm)
    · exact ⟨key, (mem_revoke hid).mpr hkey, hkeytenant, hadmin⟩
  | @status tenantId status now updatedBy =>
    refine ⟨hgood.ids, hgood.secrets, fun tenant htenant => ?_⟩
    obtain ⟨old, hold, rfl⟩ := List.mem_map.mp htenant
    obtain ⟨key, hkey, hkeytenant, hadmin⟩ := hgood.admin old hold
    refine ⟨key, hkey, ?_, hadmin⟩
    rw [hkeytenant]
    split <;> rfl

/-- The keys revoked in `db` are in `db'`, unchanged. -/
def KeepsRevoked (db db' : Registry) : Prop :=
  ∀ key ∈ db.keys, key.revoked.isSome = true → key ∈ db'.keys

/-- **A commit leaves revoked keys alone.** -/
theorem Committable.keepsRevoked {db : Registry} {held : Lock → Prop} {writes : List Write}
    (hgood : Good db) (h : Committable db held writes) :
    KeepsRevoked db (registry.view db writes) := by
  intro key hkey hrevoked
  cases h with
  | nothing => exact hkey
  | created htenant hnew hadmin => exact List.mem_append_left _ hkey
  | issued hnew => exact List.mem_append_left _ hkey
  | status => exact hkey
  | revoked hrevocable =>
    obtain ⟨-, ⟨target, htarget, hid, hunrevoked⟩, -⟩ := hrevocable
    refine (mem_revoke fun hkeyId => ?_).mpr hkey
    -- the revoked key is not the target, which is unrevoked
    obtain rfl : key = target := hgood.ids.eq_of_key hkey htarget (hkeyId.trans hid.symm)
    rw [hunrevoked] at hrevoked
    cases hrevoked

/-! ## Statements -/

/-- An insert of a key that goes on has found identifier and digest free. -/
theorem insertKey_proceed {db : Registry} {row : Option KeyRow} {conflict : TenantError}
    {next : KeyRow → Session} {locks : List Lock} {writes : List Write} {session : Session}
    (h : insertKey db row conflict next = .proceed locks writes session) :
    ∃ key, row = some key ∧ db.keyTaken key = false ∧
      locks = [.tenant key.tenantId.val, .key key.id, .secret key.secret] ∧
      writes = [.insertKey key] ∧ session = next key := by
  unfold insertKey at h
  cases row with
  | none => cases h
  | some key =>
    dsimp only at h
    split_ifs at h with htaken hregistered
    · cases h
    · cases h
    · cases h
      exact ⟨key, rfl, by simpa using htaken, rfl, rfl, rfl⟩

/-- The INSERT of a key commits nothing yet. -/
theorem insertKey_ne_commit {db : Registry} {row : Option KeyRow} {conflict : TenantError}
    {next : KeyRow → Session} {outcome : Except TenantError Record} :
    insertKey db row conflict next ≠ .commit outcome := by
  unfold insertKey
  cases row with
  | none => intro h; cases h
  | some key =>
    intro h
    dsimp only at h
    split_ifs at h
    · cases h
    · cases h

/-- A new key is unrevoked and has the tenant and the scopes it was asked for. -/
theorem newKey_some {tenantId keyId secretSha256 createdBy : String} {scopes : List TenantScope}
    {now : Timestamp} {key : KeyRow}
    (h : newKey tenantId keyId secretSha256 scopes now createdBy = some key) :
    key.tenantId.val = tenantId ∧ key.scopes = scopes ∧ key.revoked = none := by
  unfold newKey at h
  split_ifs at h
  cases h
  exact ⟨rfl, rfl, rfl⟩

/-- The row of a new tenant has the identifier it is created under. -/
theorem createTenant_row {c : CreateTenant} {tenant : TenantRow} (h : c.row = some tenant) :
    tenant.tenantId.val = c.tenantId := by
  unfold CreateTenant.row at h
  split_ifs at h
  cases h
  rfl

/-- A key that is free and locked is fresh. -/
theorem freshKey_of_locks {db : Registry} {held : Lock → Prop} {key : KeyRow}
    (htaken : db.keyTaken key = false)
    (hlocks : ∀ l ∈ [Lock.tenant key.tenantId.val, .key key.id, .secret key.secret], held l) :
    FreshKey db held key := by
  obtain ⟨hids, hsecrets⟩ := keyTaken_eq_false.mp htaken
  refine ⟨hlocks _ (by simp), hlocks _ (by simp), ?_, ?_⟩
  · rintro ⟨k, hk, hid⟩
    exact hids k hk hid
  · rintro ⟨k, hk, hsecret⟩
    exact hsecrets k hk hsecret

/-- A key that is found is in the table. -/
theorem key?_some {db : Registry} {tenantId keyId : String} {key : KeyRow}
    (h : db.key? tenantId keyId = some key) : key ∈ db.keys ∧ key.id = (tenantId, keyId) :=
  lookup_some h

/-- Two administrators counted are two keys: one of them is not the key to be revoked. -/
theorem exists_other_admin {db : Registry} (hgood : Good db) {tenantId : String}
    (hcount : 1 < db.administrators tenantId) (id : String × String) :
    ∃ other ∈ db.keys, other.tenantId.val = tenantId ∧ other.activeAdmin = true ∧
      other.id ≠ id := by
  by_contra hnone
  have hall : ∀ k ∈ db.keys, (k.tenantId.val = tenantId && k.activeAdmin) = true → k.id = id := by
    intro k hk hadmin
    by_contra hne
    simp only [Bool.and_eq_true, decide_eq_true_eq] at hadmin
    exact hnone ⟨k, hk, hadmin.1, hadmin.2, hne⟩
  have hle : db.administrators tenantId ≤ (db.keys.map KeyRow.id).count id := by
    unfold Registry.administrators List.count
    rw [List.countP_map]
    refine List.countP_mono_left fun k hk hadmin => ?_
    simpa using hall k hk (by simpa using hadmin)
  have hone : (db.keys.map KeyRow.id).count id ≤ 1 := List.nodup_iff_count_le_one.mp hgood.ids id
  omega

/-- The update of a revocation, for a key that may be revoked. -/
theorem revokeUpdate_proceed {db : Registry} {held : Lock → Prop} {c : RevokeKey}
    {now : Timestamp} (hrevocable : Revocable db held c.tenantId c.keyId) {locks : List Lock}
    {writes : List Write} {session : Session}
    (h : revokeUpdate db c now = .proceed locks writes session) (hlocks : ∀ l ∈ locks, held l) :
    Prepared db held session writes ∧ ∀ w ∈ writes, ∀ l ∈ w.touches, held l := by
  unfold revokeUpdate at h
  cases hkey : db.key? c.tenantId c.keyId with
  | none =>
    rw [hkey] at h
    cases h
    exact ⟨⟨.nothing, fun _ => rfl⟩, fun _ hw => by cases hw⟩
  | some key =>
    rw [hkey] at h
    cases h
    obtain ⟨-, hid⟩ := key?_some hkey
    refine ⟨⟨.revoked hrevocable, ?_⟩, ?_⟩
    · rintro ⟨e, he⟩
      cases he
    · intro w hw l hl
      obtain rfl := List.mem_singleton.mp hw
      simp only [Write.touches, List.mem_cons, List.not_mem_nil, or_false] at hl
      rcases hl with rfl | rfl
      · exact hrevocable.1
      · exact hid ▸ hlocks _ List.mem_cons_self

/-- The UPDATE that revokes commits nothing yet. -/
theorem revokeUpdate_ne_commit {db : Registry} {c : RevokeKey} {now : Timestamp}
    {outcome : Except TenantError Record} : revokeUpdate db c now ≠ .commit outcome := by
  unfold revokeUpdate
  split
  · intro h; cases h
  · intro h; cases h

/-- The insert of a key touches what it has locked. -/
theorem insertKey_touches {held : Lock → Prop} {key : KeyRow}
    (hlocks : ∀ l ∈ [Lock.tenant key.tenantId.val, .key key.id, .secret key.secret], held l) :
    ∀ w ∈ [Write.insertKey key], ∀ l ∈ w.touches, held l := by
  intro w hw
  obtain rfl := List.mem_singleton.mp hw
  exact hlocks

/-- **A statement that proceeds prepares the next one.** -/
theorem execute_proceed {db : Registry} {held : Lock → Prop} {session session' : Session}
    {locks : List Lock} {writes writes' : List Write} {now : Timestamp} (hgood : Good db)
    (h : Prepared db held session writes)
    (hexecute : execute session (registry.view db writes) now = .proceed locks writes' session')
    (hlocks : ∀ l ∈ locks, held l) :
    Prepared db held session' (writes ++ writes') ∧ ∀ w ∈ writes', ∀ l ∈ w.touches, held l := by
  have hnothing : ∀ w ∈ ([] : List Write), ∀ l ∈ w.touches, held l := fun _ hw => by cases hw
  cases session with
  | createInsertTenant c =>
    obtain rfl : writes = [] := h
    simp only [execute] at hexecute
    split at hexecute
    · cases hexecute
    · rename_i tenant hrow
      split_ifs at hexecute with hregistered
      · cases hexecute
      · cases hexecute
        have htenant := createTenant_row hrow
        have hheld : held (.tenant tenant.tenantId.val) := htenant ▸ hlocks _ List.mem_cons_self
        refine ⟨⟨rfl, ⟨hheld, ?_⟩, htenant⟩, ?_⟩
        · rw [htenant]
          exact eq_false_of_ne_true hregistered
        · exact List.forall_mem_singleton.mpr (List.forall_mem_singleton.mpr hheld)
  | createInsertKey c tenant =>
    obtain ⟨rfl, hfresh, htenant⟩ := h
    obtain ⟨key, hrow, htaken, rfl, rfl, rfl⟩ := insertKey_proceed hexecute
    obtain ⟨hkeytenant, hscopes, hrevoked⟩ := newKey_some hrow
    -- the new tenant in the view brings no key
    have hfreshKey : FreshKey db held key := freshKey_of_locks htaken hlocks
    refine ⟨⟨rfl, hfresh, hfreshKey, Subtype.ext (hkeytenant.trans htenant.symm), ?_⟩,
      insertKey_touches hlocks⟩
    simp [KeyRow.activeAdmin, hrevoked, hscopes]
  | createInsertQuota tenant key =>
    obtain ⟨rfl, hfresh, hkey, hadmin⟩ := h
    simp only [execute] at hexecute
    split_ifs at hexecute
    · cases hexecute
    · cases hexecute
      refine ⟨⟨.created hfresh hkey hadmin, ?_⟩, ?_⟩
      · rintro ⟨e, he⟩
        cases he
      · exact List.forall_mem_singleton.mpr (List.forall_mem_singleton.mpr hfresh.1)
  | issueLockTenant c =>
    obtain rfl : writes = [] := h
    simp only [execute] at hexecute
    split at hexecute
    · cases hexecute
    · cases hexecute
      exact ⟨rfl, hnothing⟩
  | issueInsertKey c status =>
    obtain rfl : writes = [] := h
    simp only [execute] at hexecute
    split_ifs at hexecute
    · cases hexecute
    · obtain ⟨key, -, htaken, rfl, rfl, rfl⟩ := insertKey_proceed hexecute
      have hfreshKey : FreshKey db held key := freshKey_of_locks htaken hlocks
      refine ⟨⟨.issued hfreshKey, ?_⟩, insertKey_touches hlocks⟩
      rintro ⟨e, he⟩
      cases he
  | revokeLockTenant c =>
    obtain rfl : writes = [] := h
    simp only [execute] at hexecute
    split at hexecute
    · cases hexecute
    · rename_i tenant htenant
      cases hexecute
      obtain ⟨hmem, hid⟩ : tenant ∈ db.tenants ∧ tenant.tenantId.val = c.tenantId :=
        lookup_some htenant
      exact ⟨⟨rfl, hlocks _ List.mem_cons_self, registered_iff.mpr ⟨tenant, hmem, hid⟩⟩, hnothing⟩
  | revokeLockKey c =>
    obtain ⟨rfl, hheld, hregistered⟩ := h
    simp only [execute] at hexecute
    split at hexecute
    · cases hexecute
    · rename_i key hkey
      cases hexecute
      obtain ⟨hmem, hid⟩ := key?_some hkey
      exact ⟨⟨rfl, hheld, hregistered, hmem, hid⟩, hnothing⟩
  | revokeCount c key =>
    obtain ⟨rfl, hheld, hregistered, hkey, hid⟩ := h
    simp only [execute] at hexecute
    split_ifs at hexecute with hrevoked hadmin
    · have hunrevoked : key.revoked = none := by simpa using hrevoked
      cases hexecute
      exact ⟨⟨rfl, fun hlt => ⟨hheld, ⟨key, hkey, hid, hunrevoked⟩,
        exists_other_admin hgood hlt _⟩⟩, hnothing⟩
    · have hunrevoked : key.revoked = none := by simpa using hrevoked
      -- the tenant's administrator is another key, this one having no admin scope
      obtain ⟨tenant, htenant, htenantId⟩ := registered_iff.mp hregistered
      obtain ⟨other, hother, hothertenant, hotheradmin⟩ := hgood.admin tenant htenant
      have hrevocable : Revocable db held c.tenantId c.keyId := by
        refine ⟨hheld, ⟨key, hkey, hid, hunrevoked⟩, other, hother, ?_, hotheradmin, fun heq => ?_⟩
        · rw [hothertenant]
          exact htenantId
        · obtain rfl := hgood.ids.eq_of_key hother hkey (heq.trans hid.symm)
          simp [KeyRow.activeAdmin, hadmin] at hotheradmin
      exact revokeUpdate_proceed hrevocable hexecute hlocks
  | revokeUpdate c administrators =>
    obtain ⟨rfl, hrevocable⟩ := h
    simp only [execute] at hexecute
    split_ifs at hexecute with hle
    · cases hexecute
    · exact revokeUpdate_proceed (hrevocable (not_le.mp hle)) hexecute hlocks
  | setStatusUpdate c =>
    obtain rfl : writes = [] := h
    simp only [execute] at hexecute
    split at hexecute
    · cases hexecute
      exact ⟨⟨.nothing, fun _ => rfl⟩, hnothing⟩
    · cases hexecute
      refine ⟨⟨.status, ?_⟩, ?_⟩
      · rintro ⟨e, he⟩
        cases he
      · exact List.forall_mem_singleton.mpr
          (List.forall_mem_singleton.mpr (hlocks _ List.mem_cons_self))
  | leave outcome => cases hexecute

/-- **A call that commits has prepared its writes**, and one that raises after its commit has none. -/
theorem execute_commit {db : Registry} {held : Lock → Prop} {session : Session}
    {writes : List Write} {now : Timestamp} {outcome : Except TenantError Record}
    (h : Prepared db held session writes)
    (hexecute : execute session (registry.view db writes) now = .commit outcome) :
    Committable db held writes ∧ ((∃ e, outcome = .error e) → writes = []) := by
  cases session with
  | leave outcome' =>
    cases hexecute
    exact h
  | revokeCount c key =>
    obtain ⟨rfl, -⟩ := h
    simp only [execute] at hexecute
    split_ifs at hexecute
    · cases hexecute
      exact ⟨.nothing, fun _ => rfl⟩
    · exact absurd hexecute revokeUpdate_ne_commit
  | createInsertKey c tenant => exact absurd hexecute insertKey_ne_commit
  | issueInsertKey c status =>
    simp only [execute] at hexecute
    split_ifs at hexecute
    · cases hexecute
    · exact absurd hexecute insertKey_ne_commit
  | revokeUpdate c administrators =>
    simp only [execute] at hexecute
    split_ifs at hexecute
    · cases hexecute
    · exact absurd hexecute revokeUpdate_ne_commit
  -- the other statements go on or raise
  | createInsertTenant c =>
    simp only [execute] at hexecute
    split at hexecute
    · cases hexecute
    · split_ifs at hexecute
      cases hexecute
  | createInsertQuota tenant key =>
    simp only [execute] at hexecute
    split_ifs at hexecute
    cases hexecute
  | issueLockTenant c =>
    simp only [execute] at hexecute
    split at hexecute
    · cases hexecute
    · cases hexecute
  | revokeLockTenant c =>
    simp only [execute] at hexecute
    split at hexecute
    · cases hexecute
    · cases hexecute
  | revokeLockKey c =>
    simp only [execute] at hexecute
    split at hexecute
    · cases hexecute
    · cases hexecute
  | setStatusUpdate c =>
    simp only [execute] at hexecute
    split at hexecute
    · cases hexecute
    · cases hexecute

/-- The locking discipline of the registry. -/
def discipline : Locking.Discipline registry where
  Good := Good
  touches := Write.touches
  Rely := Rely
  Prepared := Prepared
  start := fun db held c => by cases c <;> rfl
  mono := Prepared.mono
  proceed := execute_proceed
  commit := fun hgood h hexecute => (execute_commit h hexecute).1.good hgood
  rely_refl := Rely.refl
  rely_trans := Rely.trans
  rely_write := Rely.write
  stable := Prepared.stable

/-! ## The interleavings -/

/-- What every interleaving keeps. -/
theorem invariant_reached (events : List Event) : discipline.Invariant (reached events) :=
  Locking.Discipline.invariant_run Good.empty events

/-- A revoked key stays in the table, unchanged, whatever happens next. -/
theorem keepsRevoked_reached (events later : List Event) :
    KeepsRevoked (reached events).committed (reached (events ++ later)).committed := by
  have hgrows := Locking.Discipline.committed_later (D := discipline) (R := KeepsRevoked)
    (fun _ _ hkey _ => hkey)
    (fun h h' key hkey hrevoked => h' key (h key hkey hrevoked) hrevoked)
    (fun hgood hprepared hexecute =>
      (execute_commit hprepared hexecute).1.keepsRevoked hgood)
    (invariant_reached events) later
  unfold reached at hgrows ⊢
  rwa [Runs.run_append]

/-- Tenant administration along an interleaving. -/
structure AdminAccess (events : List Event) : Prop where
  /-- Every registered tenant has an unrevoked key with admin scope. -/
  admin : ∀ tenant ∈ (reached events).committed.tenants, ∃ key ∈ (reached events).committed.keys,
    key.tenantId = tenant.tenantId ∧ key.revoked = none ∧ TenantScope.admin ∈ key.scopes
  /-- Whatever happens later, a revoked key is there with its `revoked_at` and `revoked_by`, and it
      is the only one of its identifier. -/
  final : ∀ later, ∀ key ∈ (reached events).committed.keys, key.revoked.isSome = true →
    (reached (events ++ later)).committed.keys.filter (fun k => k.id = key.id) = [key]
  /-- A digest resolves to the one key that has it, unrevoked and of an active tenant. -/
  resolves : ∀ secretSha256 principal,
    resolveTenantApiKey (reached events).committed secretSha256 = some principal →
    ∃ key, (reached events).committed.keys.filter (fun k => k.secret = secretSha256) = [key] ∧
      key.revoked = none ∧ principal = ⟨key.tenantId, key.keyId.val, key.scopes⟩ ∧
      ∃ tenant ∈ (reached events).committed.tenants,
        tenant.tenantId = key.tenantId ∧ tenant.status = .active
  /-- Only a statement whose call returns with it changes the tables: no statement of a call that
      raises does, before or when it raises. -/
  raises : ∀ event, (∀ record, Locking.response registry (reached events) event ≠
      some (.ok record)) →
    (Locking.step registry (reached events) event).committed = (reached events).committed

/-- **Administrative access is never lost and revocation is final**, in every interleaving of the
    statements of any transactions. -/
theorem adminAccess (events : List Event) : AdminAccess events where
  admin := by
    intro tenant htenant
    obtain ⟨key, hkey, hkeytenant, hadmin⟩ := (invariant_reached events).good.admin tenant htenant
    simp only [KeyRow.activeAdmin, Bool.and_eq_true, Option.isNone_iff_eq_none,
      decide_eq_true_eq] at hadmin
    exact ⟨key, hkey, hkeytenant, hadmin.1, hadmin.2⟩
  final := by
    intro later key hkey hrevoked
    exact (invariant_reached (events ++ later)).good.ids.filter_eq_singleton
      (keepsRevoked_reached events later key hkey hrevoked)
  resolves := by
    intro secretSha256 principal h
    obtain ⟨key, hkey, rfl, hrevoked, hprincipal, htenant⟩ := resolveTenantApiKey_some h
    exact ⟨key, (invariant_reached events).good.secrets.filter_eq_singleton hkey, hrevoked,
      hprincipal, htenant⟩
  raises := by
    intro event hraises
    rcases Locking.committed_step registry (reached events) event with
      h | ⟨id, txn, now, outcome, hid, hnext, hanswer, h⟩
    · exact h
    · cases outcome with
      | ok record => exact absurd hanswer (hraises record)
      | error e =>
        -- it raises after an empty commit
        have hprepared := (invariant_reached events).prepared id txn hid
        have hwrites := (execute_commit hprepared hnext).2 ⟨e, rfl⟩
        rw [h, hwrites]
        rfl

end AEControl.Tenancy
