/-
  `store.py`, the tenant registry: `control_plane_tenants`, `tenant_api_keys` and `tenant_quotas`,
  and the four transactions that write them, statement by statement.

  A `Session` is the statement a call executes next, with what the code has read so far.  A row that
  a statement inserts, updates or selects `FOR UPDATE` is locked to the end of the transaction; so
  is a unique value that it inserts.  The checks of the schema are fields of the row types; they are
  also the constraints of the pydantic records, so a row that was written validates when it is
  returned.
-/
import AEControl.Lib.Table
import AEControl.Lib.Locking
import AEControl.Evidence.Checkpoints

namespace AEControl.Tenancy

open Evidence Table

/-! ## Rows -/

/-- `TenantStatus`. -/
inductive TenantStatus where
  | active
  | suspended
  deriving DecidableEq, Repr

/-- `TenantScope`. -/
inductive TenantScope where
  | read
  | write
  | admin
  deriving DecidableEq, Repr

/-- `^[A-Za-z0-9][A-Za-z0-9._-]{0,63}$`. -/
def isTenantKeyId (s : String) : Bool :=
  match s.toList with
  | [] => false
  | c :: cs => c.isAlphanum && cs.length ≤ 63 &&
      cs.all fun d => d.isAlphanum || d = '.' || d = '_' || d = '-'

/-- A row of `control_plane_tenants`, also a `TenantRecord`. -/
structure TenantRow where
  tenantId : TenantId
  displayName : String
  status : TenantStatus
  createdAt : Timestamp
  createdBy : String
  updatedAt : Timestamp
  updatedBy : String
  /-- `char_length(display_name) BETWEEN 1 AND 200`. -/
  displayName_length : 1 ≤ displayName.length ∧ displayName.length ≤ 200
  deriving DecidableEq

/-- A row of `tenant_api_keys`; without the digest it is a `TenantAPIKeyRecord`.  `revoked_at` and
    `revoked_by` are null together. -/
structure KeyRow where
  tenantId : TenantId
  keyId : { s : String // isTenantKeyId s = true }
  secretSha256 : HexDigest
  scopes : List TenantScope
  createdAt : Timestamp
  createdBy : String
  revoked : Option (Timestamp × String)
  /-- `cardinality(scopes) > 0`. -/
  scopes_ne : scopes ≠ []
  deriving DecidableEq

/-- The primary key of `tenant_api_keys`. -/
def KeyRow.id (k : KeyRow) : String × String := (k.tenantId.val, k.keyId.val)

/-- The digest as a text. -/
def KeyRow.secret (k : KeyRow) : String := k.secretSha256.val

/-- `revoked_at IS NULL AND 'admin' = ANY(scopes)`. -/
def KeyRow.activeAdmin (k : KeyRow) : Bool := k.revoked.isNone && TenantScope.admin ∈ k.scopes

/-- The registry tables; of `tenant_quotas` only the key matters here. -/
structure Registry where
  tenants : List TenantRow
  keys : List KeyRow
  quotas : List String

def Registry.empty : Registry := ⟨[], [], []⟩

/-- A tenant has a row. -/
def Registry.registered (db : Registry) (tenantId : String) : Bool :=
  db.tenants.any fun r => r.tenantId.val = tenantId

/-- `SELECT … FROM control_plane_tenants WHERE tenant_id = %s`. -/
def Registry.tenant? (db : Registry) (tenantId : String) : Option TenantRow :=
  lookup (fun r : TenantRow => r.tenantId.val) tenantId db.tenants

/-- `SELECT … FROM tenant_api_keys WHERE tenant_id = %s AND key_id = %s`. -/
def Registry.key? (db : Registry) (tenantId keyId : String) : Option KeyRow :=
  lookup KeyRow.id (tenantId, keyId) db.keys

/-- `SELECT count(*) … WHERE tenant_id = %s AND revoked_at IS NULL AND 'admin' = ANY(scopes)`. -/
def Registry.administrators (db : Registry) (tenantId : String) : ℕ :=
  db.keys.countP fun k => k.tenantId.val = tenantId && k.activeAdmin

/-! ## Reads -/

/-- `tenant_access_allowed`. -/
def tenantAccessAllowed (db : Registry) (tenantId : String) : Bool :=
  match db.tenant? tenantId with
  | none => true
  | some row => row.status = .active

/-- `ResolvedTenantAPIKey`. -/
structure ResolvedTenantAPIKey where
  tenantId : TenantId
  keyId : String
  scopes : List TenantScope
  deriving DecidableEq

/-- `resolve_tenant_api_key`. -/
def resolveTenantApiKey (db : Registry) (secretSha256 : String) : Option ResolvedTenantAPIKey :=
  (db.keys.find? fun k => k.secret = secretSha256 && k.revoked.isNone &&
    db.tenants.any fun r => r.tenantId = k.tenantId ∧ r.status = .active).map fun k =>
      ⟨k.tenantId, k.keyId.val, k.scopes⟩

/-- A principal is resolved from a stored key, unrevoked, of an active tenant. -/
theorem resolveTenantApiKey_some {db : Registry} {secretSha256 : String}
    {principal : ResolvedTenantAPIKey} (h : resolveTenantApiKey db secretSha256 = some principal) :
    ∃ key ∈ db.keys, key.secret = secretSha256 ∧ key.revoked = none ∧
      principal = ⟨key.tenantId, key.keyId.val, key.scopes⟩ ∧
      ∃ tenant ∈ db.tenants, tenant.tenantId = key.tenantId ∧ tenant.status = .active := by
  obtain ⟨key, hfind, rfl⟩ := Option.map_eq_some_iff.mp h
  have hpred := List.find?_some hfind
  simp only [Bool.and_eq_true, decide_eq_true_eq, Option.isNone_iff_eq_none, List.any_eq_true]
    at hpred
  obtain ⟨⟨hsecret, hrevoked⟩, htenant⟩ := hpred
  exact ⟨key, List.mem_of_find?_eq_some hfind, hsecret, hrevoked, rfl, htenant⟩

/-! ## Writes -/

/-- What a statement does to a row. -/
inductive Write where
  | insertTenant (row : TenantRow)
  | insertKey (row : KeyRow)
  | insertQuota (tenantId : String)
  | revokeKey (tenantId keyId : String) (now : Timestamp) (revokedBy : String)
  | setStatus (tenantId : String) (status : TenantStatus) (now : Timestamp) (updatedBy : String)

/-- `SET revoked_at = %s, revoked_by = %s`. -/
def KeyRow.revoke (now : Timestamp) (revokedBy : String) (k : KeyRow) : KeyRow :=
  { k with revoked := some (now, revokedBy) }

/-- `SET status = %s, updated_at = %s, updated_by = %s`. -/
def TenantRow.setStatus (status : TenantStatus) (now : Timestamp) (updatedBy : String)
    (r : TenantRow) : TenantRow :=
  { r with status := status, updatedAt := now, updatedBy := updatedBy }

def Registry.apply (db : Registry) : Write → Registry
  | .insertTenant row => ⟨db.tenants ++ [row], db.keys, db.quotas⟩
  | .insertKey row => ⟨db.tenants, db.keys ++ [row], db.quotas⟩
  | .insertQuota tenantId => ⟨db.tenants, db.keys, db.quotas ++ [tenantId]⟩
  | .revokeKey tenantId keyId now revokedBy =>
    ⟨db.tenants, update KeyRow.id (tenantId, keyId) (fun _ => true) (KeyRow.revoke now revokedBy)
      db.keys, db.quotas⟩
  | .setStatus tenantId status now updatedBy =>
    ⟨update (fun r : TenantRow => r.tenantId.val) tenantId (fun _ => true)
      (TenantRow.setStatus status now updatedBy) db.tenants, db.keys, db.quotas⟩

/-! ## Calls -/

/-- What the registry methods raise. -/
inductive TenantError where
  | keyError (key : String)
  | tenantConflict (message : String)
  | tenantSuspended (message : String)
  | lastTenantAdmin (message : String)
  | runtimeError (message : String)
  /-- `CheckViolation`. -/
  | checkViolation
  | foreignKeyViolation
  deriving DecidableEq, Repr

/-- What they return. -/
inductive Record where
  | created (tenant : TenantRow) (key : KeyRow)
  | key (key : KeyRow)
  | tenant (tenant : TenantRow)

/-- The arguments of `create_tenant`. -/
structure CreateTenant where
  tenantId : String
  displayName : String
  keyId : String
  secretSha256 : String
  createdBy : String
  /-- `datetime.now(UTC)`, read before the transaction. -/
  now : Timestamp

/-- The arguments of `issue_tenant_api_key`. -/
structure IssueKey where
  tenantId : String
  keyId : String
  secretSha256 : String
  /-- A set: order and repetition do not matter. -/
  scopes : List TenantScope
  createdBy : String

/-- The arguments of `revoke_tenant_api_key`. -/
structure RevokeKey where
  tenantId : String
  keyId : String
  revokedBy : String

/-- The arguments of `set_tenant_status`. -/
structure SetStatus where
  tenantId : String
  status : TenantStatus
  updatedBy : String

inductive Call where
  | createTenant (c : CreateTenant)
  | issueTenantApiKey (c : IssueKey)
  | revokeTenantApiKey (c : RevokeKey)
  | setTenantStatus (c : SetStatus)

/-- The next statement of a call. -/
inductive Session where
  /-- `create_tenant`: `INSERT INTO control_plane_tenants`, … -/
  | createInsertTenant (c : CreateTenant)
  /-- … `INSERT INTO tenant_api_keys`, … -/
  | createInsertKey (c : CreateTenant) (tenant : TenantRow)
  /-- … `INSERT INTO tenant_quotas`. -/
  | createInsertQuota (tenant : TenantRow) (key : KeyRow)
  /-- `issue_tenant_api_key`: `SELECT status … FOR UPDATE`, … -/
  | issueLockTenant (c : IssueKey)
  /-- … the test of the status and `INSERT INTO tenant_api_keys`. -/
  | issueInsertKey (c : IssueKey) (status : TenantStatus)
  /-- `revoke_tenant_api_key`: `SELECT status … FOR UPDATE`, … -/
  | revokeLockTenant (c : RevokeKey)
  /-- … `SELECT … FROM tenant_api_keys … FOR UPDATE`, … -/
  | revokeLockKey (c : RevokeKey)
  /-- … the return if the key is revoked, else `SELECT count(*)` if it is an admin key, … -/
  | revokeCount (c : RevokeKey) (key : KeyRow)
  /-- … the test of the count and `UPDATE tenant_api_keys`. -/
  | revokeUpdate (c : RevokeKey) (administrators : ℕ)
  /-- `set_tenant_status`: `UPDATE control_plane_tenants`. -/
  | setStatusUpdate (c : SetStatus)
  /-- The `with` block is left: `COMMIT`, then the call returns or raises. -/
  | leave (outcome : Except TenantError Record)

def Call.start : Call → Session
  | createTenant c => .createInsertTenant c
  | issueTenantApiKey c => .issueLockTenant c
  | revokeTenantApiKey c => .revokeLockTenant c
  | setTenantStatus c => .setStatusUpdate c

/-- What is locked: a row by its key, or an inserted digest. -/
inductive Lock where
  | tenant (tenantId : String)
  | key (id : String × String)
  | secret (secretSha256 : String)
  deriving DecidableEq

abbrev Statement := Locking.Statement Session Write Lock (Except TenantError Record)

/-- A call that raises inside its `with` block. -/
def raises (e : TenantError) : Statement := .rollback (.error e)

/-- `sorted(scopes)`. -/
def sortedScopes (scopes : List TenantScope) : List TenantScope :=
  [.admin, .read, .write].filter (· ∈ scopes)

/-- The row `create_tenant` inserts, if the schema's checks admit it. -/
def CreateTenant.row (c : CreateTenant) : Option TenantRow :=
  if hid : isTenantId c.tenantId = true then
    if hname : 1 ≤ c.displayName.length ∧ c.displayName.length ≤ 200 then
      some ⟨⟨c.tenantId, hid⟩, c.displayName, .active, c.now, c.createdBy, c.now, c.createdBy, hname⟩
    else none
  else none

/-- The row of a new key, if the schema's checks admit it. -/
def newKey (tenantId keyId secretSha256 : String) (scopes : List TenantScope) (now : Timestamp)
    (createdBy : String) : Option KeyRow :=
  if htenant : isTenantId tenantId = true then
    if hkey : isTenantKeyId keyId = true then
      if hsecret : isHexDigest secretSha256 = true then
        if hscopes : scopes ≠ [] then
          some ⟨⟨tenantId, htenant⟩, ⟨keyId, hkey⟩, ⟨secretSha256, hsecret⟩, scopes, now, createdBy,
            none, hscopes⟩
        else none
      else none
    else none
  else none

/-- A new key collides with a stored one: primary key, or `UNIQUE (secret_sha256)`. -/
def Registry.keyTaken (db : Registry) (key : KeyRow) : Bool :=
  db.keys.any fun k => k.id = key.id || k.secret = key.secret

/-- `INSERT INTO tenant_api_keys`, with the error a collision becomes. -/
def insertKey (db : Registry) (row : Option KeyRow) (conflict : TenantError)
    (next : KeyRow → Session) : Statement :=
  match row with
  | none => raises .checkViolation
  | some key =>
    if db.keyTaken key then raises conflict
    else if !db.registered key.tenantId.val then raises .foreignKeyViolation
    else .proceed [.tenant key.tenantId.val, .key key.id, .secret key.secret] [.insertKey key]
      (next key)

/-- `UPDATE tenant_api_keys SET revoked_at = …` and what is returned then. -/
def revokeUpdate (db : Registry) (c : RevokeKey) (now : Timestamp) : Statement :=
  match db.key? c.tenantId c.keyId with
  | none => .proceed [] []
      (.leave (.error (.runtimeError "PostgreSQL did not return the revoked API key")))
  | some key => .proceed [.key key.id] [.revokeKey c.tenantId c.keyId now c.revokedBy]
      (.leave (.ok (.key (key.revoke now c.revokedBy))))

/-- One statement, on the database as its transaction sees it. -/
def execute (session : Session) (db : Registry) (now : Timestamp) : Statement :=
  match session with
  | .createInsertTenant c =>
    match c.row with
    | none => raises .checkViolation
    | some tenant =>
      if db.registered c.tenantId then
        raises (.tenantConflict ("tenant or API key already exists: " ++ c.tenantId))
      else .proceed [.tenant c.tenantId] [.insertTenant tenant] (.createInsertKey c tenant)
  | .createInsertKey c tenant =>
    insertKey db (newKey c.tenantId c.keyId c.secretSha256 [.admin] c.now c.createdBy)
      (.tenantConflict ("tenant or API key already exists: " ++ c.tenantId))
      (.createInsertQuota tenant)
  | .createInsertQuota tenant key =>
    if tenant.tenantId.val ∈ db.quotas then
      raises (.tenantConflict ("tenant or API key already exists: " ++ tenant.tenantId.val))
    else .proceed [.tenant tenant.tenantId.val] [.insertQuota tenant.tenantId.val]
      (.leave (.ok (.created tenant key)))
  | .issueLockTenant c =>
    match db.tenant? c.tenantId with
    | none => raises (.keyError c.tenantId)
    | some tenant => .proceed [.tenant c.tenantId] [] (.issueInsertKey c tenant.status)
  | .issueInsertKey c status =>
    if status ≠ .active then
      raises (.tenantSuspended ("tenant is suspended: " ++ c.tenantId))
    else insertKey db
      (newKey c.tenantId c.keyId c.secretSha256 (sortedScopes c.scopes) now c.createdBy)
      (.tenantConflict ("API key already exists: " ++ c.keyId)) fun key => .leave (.ok (.key key))
  | .revokeLockTenant c =>
    match db.tenant? c.tenantId with
    | none => raises (.keyError c.tenantId)
    | some _ => .proceed [.tenant c.tenantId] [] (.revokeLockKey c)
  | .revokeLockKey c =>
    match db.key? c.tenantId c.keyId with
    | none => raises (.keyError c.keyId)
    | some key => .proceed [.key key.id] [] (.revokeCount c key)
  | .revokeCount c key =>
    if key.revoked.isSome then .commit (.ok (.key key))
    else if TenantScope.admin ∈ key.scopes then
      .proceed [] [] (.revokeUpdate c (db.administrators c.tenantId))
    else revokeUpdate db c now
  | .revokeUpdate c administrators =>
    if administrators ≤ 1 then
      raises (.lastTenantAdmin "cannot revoke the tenant's last active admin key")
    else revokeUpdate db c now
  | .setStatusUpdate c =>
    match db.tenant? c.tenantId with
    | none => .proceed [] [] (.leave (.error (.keyError c.tenantId)))
    | some tenant =>
      .proceed [.tenant c.tenantId] [.setStatus c.tenantId c.status now c.updatedBy]
        (.leave (.ok (.tenant (tenant.setStatus c.status now c.updatedBy))))
  | .leave outcome => .commit outcome

/-- The registry's transactions. -/
def registry : Locking.Protocol Registry Call Session Write Lock Timestamp
    (Except TenantError Record) where
  start := Call.start
  apply := Registry.apply
  execute := execute

abbrev State := Locking.State Registry Session Write Lock

abbrev Event := Locking.Event Call Timestamp

/-- The state after any interleaving of any calls. -/
def reached (events : List Event) : State := Runs.run (Locking.step registry) (.idle .empty) events

end AEControl.Tenancy
