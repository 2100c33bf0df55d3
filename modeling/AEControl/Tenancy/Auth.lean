/-
  `auth.py`: static API keys and `Authenticator.require`.

  Three sources are asked in turn: the static configuration, the key registry and, for a text of
  three JWT segments that neither knows, the federated verifier.  `identify_ok` says what each can
  vouch for (`Vouched`), `require_sound` adds the scope; suspension is part of the first, being
  checked in a different place for every source.

  Structure of the proof:
  1. `keys_find` and `federatedIdentity_some`: what the two other sources find, in the words of the
     registry (`Registry`) and of the verifier (`Federation`);
  2. **the crux**, `identify_ok`: a principal comes from one of the sources, with its tenant and
     scopes; only a static key has the operator scope, and without it the tenant is not suspended;
  3. `require_sound` for the scope that is asked for, `loadAuthConfig_ok` for the configuration file
     the static keys come from, `scopesExact` for the scopes of a token;
  4. `authorization_sound` is the three together.  The scope claim of a token is limited to 100
     entries, repetitions included (`repetition_rejected`).
-/
import Mathlib.Data.Finset.Image
import AEControl.Tenancy.Federation

namespace AEControl.Tenancy

open Evidence Table

/-! ## Static keys -/

/-- `AuthScope`. -/
inductive AuthScope where
  | read
  | write
  | admin
  | operator
  deriving DecidableEq, Repr

/-- The text of a scope. -/
def AuthScope.text : AuthScope → String
  | read => "read"
  | write => "write"
  | admin => "admin"
  | operator => "operator"

/-- A tenant scope among all scopes. -/
def TenantScope.auth : TenantScope → AuthScope
  | .read => .read
  | .write => .write
  | .admin => .admin

/-- `APIKey`. -/
structure APIKey where
  keyId : String
  tenantId : TenantId
  secretSha256 : HexDigest
  scopes : Finset AuthScope
  keyId_length : 1 ≤ keyId.length ∧ keyId.length ≤ 64
  scopes_ne : scopes.Nonempty
  /-- `isolate_operator_scope`. -/
  isolated : AuthScope.operator ∈ scopes → scopes = {AuthScope.operator}

/-- What `load_auth_config` returns. -/
structure AuthConfig where
  keys : List APIKey
  keys_ne : keys ≠ []
  ids : Keyed APIKey.keyId keys
  digests : Keyed APIKey.secretSha256 keys

/-- A key of the configuration file, as `yaml.safe_load` gives it. -/
structure KeyEntry where
  keyId : String
  tenantId : Option String
  secretSha256 : String
  scopes : List String

/-- A text of the `AuthScope` literal. -/
def AuthScope.ofText (s : String) : Option AuthScope :=
  if s = "operator" then some .operator else (TenantScope.ofText s).map TenantScope.auth

/-- What the authenticator raises. -/
inductive AuthError where
  /-- pydantic's `ValidationError`, naming the field. -/
  | validationError (field : String)
  | valueError (message : String)
  /-- `HTTP_401_UNAUTHORIZED`. -/
  | unauthorized (detail : String)
  /-- `HTTP_403_FORBIDDEN`. -/
  | forbidden (detail : String)
  /-- What the verifier raises beside `FederationError`. -/
  | verifier (e : VerifyError)
  deriving DecidableEq, Repr

/-- `APIKey.model_validate`. -/
def APIKey.validate (entry : KeyEntry) : Except AuthError APIKey :=
  let tenantId := entry.tenantId.getD "default"
  if hid : 1 ≤ entry.keyId.length ∧ entry.keyId.length ≤ 64 then
    if htenant : isTenantId tenantId = true then
      if hsecret : isHexDigest entry.secretSha256 = true then
        match entry.scopes.mapM AuthScope.ofText with
        | none => .error (.validationError "scopes")
        | some scopes =>
          if hne : scopes.toFinset.Nonempty then
            if hisolated : AuthScope.operator ∈ scopes.toFinset →
                scopes.toFinset = {AuthScope.operator} then
              .ok ⟨entry.keyId, ⟨tenantId, htenant⟩, ⟨entry.secretSha256, hsecret⟩, scopes.toFinset,
                hid, hne, hisolated⟩
            else .error (.valueError "operator API keys cannot include tenant scopes")
          else .error (.validationError "scopes")
      else .error (.validationError "secret_sha256")
    else .error (.validationError "tenant_id")
  else .error (.validationError "key_id")

/-- `load_auth_config`, behind the YAML parser. -/
def loadAuthConfig (entries : List KeyEntry) : Except AuthError AuthConfig := do
  let keys ← entries.mapM APIKey.validate
  if hne : keys ≠ [] then
    if hids : (keys.map APIKey.keyId).Nodup then
      if hdigests : (keys.map APIKey.secretSha256).Nodup then .ok ⟨keys, hne, hids, hdigests⟩
      else .error (.valueError "authentication key digests must be unique")
    else .error (.valueError "authentication key IDs must be unique")
  else .error (.validationError "keys")

/-! ## The authenticator -/

/-- `Principal`. -/
structure Principal where
  keyId : String
  tenantId : TenantId
  scopes : Finset AuthScope
  deriving DecidableEq

/-- `Authenticator`, with what it gets from `hashlib` and `default_tenant_id`. -/
structure Authenticator where
  config : Option AuthConfig
  credentialLookup : Option (String → Option ResolvedTenantAPIKey)
  tenantAccessAllowed : Option (TenantId → Bool)
  federatedTokenVerifier : Option (String → Except VerifyError FederatedIdentity)
  sha256 : String → HexDigest
  defaultTenant : TenantId

namespace Authenticator

/-- `enabled`. -/
def enabled (A : Authenticator) : Bool := A.config.isSome || A.federatedTokenVerifier.isSome

/-- `self.config.keys if self.config is not None else []`. -/
def keys (A : Authenticator) : List APIKey := (A.config.map AuthConfig.keys).getD []

/-- `self.tenant_access_allowed is not None and not self.tenant_access_allowed(tenant_id)`. -/
def refuses (A : Authenticator) (tenantId : TenantId) : Bool :=
  A.tenantAccessAllowed.any fun allowed => !allowed tenantId

/-- `hash_api_key`. -/
def hashApiKey (A : Authenticator) (secret : String) : Except AuthError HexDigest :=
  if secret = "" then .error (.valueError "API key must not be empty") else .ok (A.sha256 secret)

/-- `with suppress(FederationError)`. -/
def suppressed : Except VerifyError FederatedIdentity →
    Except AuthError (Option FederatedIdentity)
  | .ok identity => .ok (some identity)
  | .error (.federation _) => .ok none
  | .error e => .error (.verifier e)

/-- The federated identity of a credential, if it looks like a token and verifies. -/
def federatedIdentity (A : Authenticator) (secret : String) :
    Except AuthError (Option FederatedIdentity) :=
  match A.federatedTokenVerifier with
  | none => .ok none
  | some verify => if secret.toList.count '.' = 2 then suppressed (verify secret) else .ok none

/-- The response to a credential that nobody vouches for, or whose tenant is suspended. -/
def invalidCredential : AuthError := .unauthorized "Bearer credential is invalid"

/-- Key identifier, tenant and scopes of a credential. -/
def identify (A : Authenticator) (secret : String) : Except AuthError Principal := do
  let candidate ← A.hashApiKey secret
  match A.keys.find? fun key => key.secretSha256 = candidate,
      A.credentialLookup.bind fun lookup => lookup candidate.val with
  | some key, _ =>
    if AuthScope.operator ∉ key.scopes && A.refuses key.tenantId then .error invalidCredential
    else .ok ⟨key.keyId, key.tenantId, key.scopes⟩
  | none, some key => .ok ⟨key.keyId, key.tenantId, (key.scopes.map TenantScope.auth).toFinset⟩
  | none, none => do
    match ← A.federatedIdentity secret with
    | none => .error invalidCredential
    | some identity =>
      if A.refuses identity.tenantId then .error invalidCredential
      else .ok ⟨identity.principalId, identity.tenantId, identity.scopes.image TenantScope.auth⟩

/-- `authenticate` of `require(scope)`: the principal, and the tenant that `bind_tenant` binds to
    the request. -/
def require (A : Authenticator) (scope : AuthScope) (credentials : Option String) :
    Except AuthError (Principal × TenantId) :=
  if !A.enabled then .ok (⟨"local-trust", A.defaultTenant, {AuthScope.admin}⟩, A.defaultTenant)
  else match credentials with
    | none => .error (.unauthorized "Bearer credential is required")
    | some secret => do
      let principal ← A.identify secret
      if scope ∈ principal.scopes || (scope ≠ .operator && AuthScope.admin ∈ principal.scopes) then
        .ok (principal, principal.tenantId)
      else .error (.forbidden ("Bearer credential requires the " ++ scope.text ++ " scope"))

end Authenticator

/-- The authenticator of `create_app`, authentication being enabled. -/
structure Deployment where
  config : Option AuthConfig
  registry : Registry
  verifier : Option (String → Except VerifyError FederatedIdentity)
  sha256 : String → HexDigest
  defaultTenant : TenantId
  enabled : (config.isSome || verifier.isSome) = true
  /-- `PRIMARY KEY` of `control_plane_tenants`. -/
  tenants_keyed : Keyed TenantRow.tenantId registry.tenants

/-- `Authenticator(auth_config, credential_lookup=store.resolve_tenant_api_key, …)`. -/
def Deployment.authenticator (D : Deployment) : Authenticator where
  config := D.config
  credentialLookup := some (resolveTenantApiKey D.registry)
  tenantAccessAllowed := some fun t => tenantAccessAllowed D.registry t.val
  federatedTokenVerifier := D.verifier
  sha256 := D.sha256
  defaultTenant := D.defaultTenant

/-! ## What a grant rests on -/

/-- No row of the registry suspends the tenant. -/
def NotSuspended (db : Registry) (t : TenantId) : Prop :=
  ∀ row ∈ db.tenants, row.tenantId = t → row.status = .active

/-- A source vouches for a credential as a principal. -/
inductive Vouched (D : Deployment) (secret : String) : Principal → Prop where
  /-- A static key has the credential's digest. -/
  | staticKey {config : AuthConfig} {key : APIKey} (hconfig : D.config = some config)
      (hkey : key ∈ config.keys) (hsecret : key.secretSha256 = D.sha256 secret) :
      Vouched D secret ⟨key.keyId, key.tenantId, key.scopes⟩
  /-- An unrevoked key of the registry has it. -/
  | registryKey {key : KeyRow} (hkey : key ∈ D.registry.keys)
      (hsecret : key.secretSha256 = D.sha256 secret) (hrevoked : key.revoked = none) :
      Vouched D secret ⟨key.keyId.val, key.tenantId, (key.scopes.map TenantScope.auth).toFinset⟩
  /-- The credential is a token that verifies. -/
  | federated {verify : String → Except VerifyError FederatedIdentity}
      {identity : FederatedIdentity} (hverifier : D.verifier = some verify)
      (hverified : verify secret = .ok identity) :
      Vouched D secret ⟨identity.principalId, identity.tenantId,
        identity.scopes.image TenantScope.auth⟩

/-- A static key whose scopes are exactly `operator` has the credential's digest. -/
def OperatorKey (D : Deployment) (secret : String) (principal : Principal) : Prop :=
  ∃ config, D.config = some config ∧ ∃ key ∈ config.keys, key.secretSha256 = D.sha256 secret ∧
    key.scopes = {AuthScope.operator} ∧ principal = ⟨key.keyId, key.tenantId, key.scopes⟩

theorem notSuspended_of_allowed {D : Deployment} {t : TenantId}
    (h : tenantAccessAllowed D.registry t.val = true) : NotSuspended D.registry t := by
  intro row hrow ht
  have hkeyed : Keyed (fun r : TenantRow => r.tenantId.val) D.registry.tenants := by
    have := D.tenants_keyed.map Subtype.val_injective
    rwa [List.map_map] at this
  have hlookup : D.registry.tenant? t.val = some row := by
    rw [← ht]
    exact lookup_of_mem hkeyed hrow
  unfold tenantAccessAllowed at h
  rw [hlookup] at h
  simpa using h

theorem notSuspended_of_active {D : Deployment} {t : TenantId}
    (h : ∃ tenant ∈ D.registry.tenants, tenant.tenantId = t ∧ tenant.status = .active) :
    NotSuspended D.registry t := by
  obtain ⟨tenant, htenant, ht, hactive⟩ := h
  intro row hrow hrowt
  obtain rfl := D.tenants_keyed.eq_of_key hrow htenant (hrowt.trans ht.symm)
  exact hactive

/-- A tenant scope is no operator scope. -/
theorem TenantScope.auth_ne_operator (x : TenantScope) : x.auth ≠ .operator := by
  cases x <;> decide

/-- A key that the authenticator finds is one of the configuration. -/
theorem keys_find {D : Deployment} {digest : HexDigest} {key : APIKey}
    (h : (D.authenticator.keys.find? fun key => key.secretSha256 = digest) = some key) :
    ∃ config, D.config = some config ∧ key ∈ config.keys ∧ key.secretSha256 = digest := by
  have hmem := List.mem_of_find?_eq_some h
  have hsecret : key.secretSha256 = digest := by simpa using List.find?_some h
  unfold Authenticator.keys Deployment.authenticator at hmem
  cases hconfig : D.config with
  | none =>
    rw [hconfig] at hmem
    cases hmem
  | some config =>
    rw [hconfig] at hmem
    exact ⟨config, rfl, hmem, hsecret⟩

/-- A federated identity comes from the verifier. -/
theorem federatedIdentity_some {D : Deployment} {secret : String} {identity : FederatedIdentity}
    (h : D.authenticator.federatedIdentity secret = .ok (some identity)) :
    ∃ verify, D.verifier = some verify ∧ verify secret = .ok identity := by
  unfold Authenticator.federatedIdentity Deployment.authenticator at h
  cases hverifier : D.verifier with
  | none =>
    rw [hverifier] at h
    cases h
  | some verify =>
    rw [hverifier] at h
    dsimp only at h
    split_ifs at h
    · refine ⟨verify, rfl, ?_⟩
      cases hresult : verify secret with
      | ok identity' =>
        rw [hresult] at h
        cases h
        rfl
      | error e =>
        rw [hresult] at h
        cases e <;> cases h
    · cases h

/-- **What a source vouches for.**  Without the operator scope the tenant is not suspended; with it
    the credential is an operator key. -/
theorem identify_ok {D : Deployment} {secret : String} {principal : Principal}
    (h : D.authenticator.identify secret = .ok principal) :
    Vouched D secret principal ∧
      (AuthScope.operator ∈ principal.scopes → OperatorKey D secret principal) ∧
      (AuthScope.operator ∉ principal.scopes → NotSuspended D.registry principal.tenantId) := by
  unfold Authenticator.identify at h
  obtain ⟨candidate, hcandidate, h⟩ := Raising.bind_ok h
  have hdigest : candidate = D.sha256 secret := by
    unfold Authenticator.hashApiKey at hcandidate
    split_ifs at hcandidate
    exact (Except.ok.inj hcandidate).symm
  subst hdigest
  -- the sources in their order: configured keys, the registry, the identity provider
  cases hfind : D.authenticator.keys.find? fun key => key.secretSha256 = D.sha256 secret with
  | some key =>
    rw [hfind] at h
    obtain ⟨config, hconfig, hkey, hsecret⟩ := keys_find hfind
    dsimp only at h
    split at h
    · cases h
    · rename_i hrefused
      obtain rfl := Except.ok.inj h
      refine ⟨.staticKey hconfig hkey hsecret, fun hoperator => ?_, fun hoperator => ?_⟩
      · exact ⟨config, hconfig, key, hkey, hsecret, key.isolated hoperator, rfl⟩
      · refine notSuspended_of_allowed ?_
        simpa [hoperator, Authenticator.refuses, Deployment.authenticator] using hrefused
  | none =>
    rw [hfind] at h
    cases hlookup : resolveTenantApiKey D.registry (D.sha256 secret).val with
    | some resolved =>
      rw [show (D.authenticator.credentialLookup.bind fun lookup => lookup (D.sha256 secret).val) =
        some resolved from hlookup] at h
      obtain rfl := Except.ok.inj h
      obtain ⟨row, hrow, hsecret, hrevoked, rfl, hactive⟩ := resolveTenantApiKey_some hlookup
      refine ⟨.registryKey hrow (Subtype.ext hsecret) hrevoked, fun hoperator => ?_,
        fun _ => notSuspended_of_active hactive⟩
      obtain ⟨x, -, hx⟩ := List.mem_map.mp (List.mem_toFinset.mp hoperator)
      exact absurd hx x.auth_ne_operator
    | none =>
      rw [show (D.authenticator.credentialLookup.bind fun lookup => lookup (D.sha256 secret).val) =
        none from hlookup] at h
      obtain ⟨federated, hfederated, h⟩ := Raising.bind_ok h
      cases federated with
      | none => cases h
      | some identity =>
        obtain ⟨verify, hverifier, hverified⟩ := federatedIdentity_some hfederated
        dsimp only at h
        split at h
        · cases h
        · rename_i hrefused
          obtain rfl := Except.ok.inj h
          refine ⟨.federated hverifier hverified, fun hoperator => ?_, fun _ => ?_⟩
          · obtain ⟨x, -, hx⟩ := Finset.mem_image.mp hoperator
            exact absurd hx x.auth_ne_operator
          · refine notSuspended_of_allowed ?_
            simpa [Authenticator.refuses, Deployment.authenticator] using hrefused

/-! ## Grants -/

/-- What `require(scope)` grants, it grants soundly: the principal is the one a source vouches for,
    with its tenant bound to the request; the operator scope takes an operator key, a tenant scope
    takes that scope or `admin` and a tenant that is not suspended. -/
def GrantsSoundly (D : Deployment) (scope : AuthScope) (credentials : Option String) : Prop :=
  ∀ principal tenant, D.authenticator.require scope credentials = .ok (principal, tenant) →
    tenant = principal.tenantId ∧ ∃ secret, credentials = some secret ∧
      Vouched D secret principal ∧
      (scope = .operator → OperatorKey D secret principal) ∧
      (scope ≠ .operator → (scope ∈ principal.scopes ∨ AuthScope.admin ∈ principal.scopes) ∧
        NotSuspended D.registry principal.tenantId)

theorem require_sound (D : Deployment) (scope : AuthScope) (credentials : Option String) :
    GrantsSoundly D scope credentials := by
  intro principal tenant h
  unfold Authenticator.require at h
  have henabled : D.authenticator.enabled = true := D.enabled
  rw [henabled] at h
  cases credentials with
  | none => cases h
  | some secret =>
    obtain ⟨principal', hidentify, h⟩ := Raising.bind_ok h
    split at h
    · rename_i hauthorized
      obtain ⟨rfl, rfl⟩ := Prod.mk.inj (Except.ok.inj h)
      obtain ⟨hvouched, hoperator, htenant⟩ := identify_ok hidentify
      refine ⟨rfl, secret, rfl, hvouched, ?_, fun hne => ?_⟩
      · rintro rfl
        exact hoperator (by simpa using hauthorized)
      · have hscope : scope ∈ principal'.scopes ∨ AuthScope.admin ∈ principal'.scopes := by
          simpa [hne] using hauthorized
        refine ⟨hscope, htenant fun hmem => ?_⟩
        -- an operator key has no tenant scope
        obtain ⟨config, hconfig, key, hkey, hsecret, hscopes, rfl⟩ := hoperator hmem
        rw [hscopes] at hscope
        simp [hne] at hscope
    · cases h

/-! ## Loaded keys -/

theorem AuthScope.ofText_eq_some {s : String} {x : AuthScope} :
    AuthScope.ofText s = some x ↔ s = x.text := by
  unfold ofText
  constructor
  · intro h
    split_ifs at h with hoperator
    · cases h
      exact hoperator
    · obtain ⟨y, hy, rfl⟩ := Option.map_eq_some_iff.mp h
      rw [TenantScope.ofText_eq_some.mp hy]
      cases y <;> rfl
  · rintro rfl
    cases x <;> decide

theorem mapM_ofText {texts : List String} {scopes : List AuthScope}
    (h : texts.mapM AuthScope.ofText = some scopes) : scopes.map AuthScope.text = texts := by
  induction texts generalizing scopes with
  | nil =>
    obtain rfl : [] = scopes := Option.some.inj h
    rfl
  | cons s texts ih =>
    rw [List.mapM_cons] at h
    obtain ⟨x, hx, h⟩ := Option.bind_eq_some_iff.mp h
    obtain ⟨xs, hxs, h⟩ := Option.bind_eq_some_iff.mp h
    obtain rfl := Option.some.inj h
    rw [List.map_cons, ih hxs, AuthScope.ofText_eq_some.mp hx]

/-- A static key says what its entry in the file says. -/
structure KeyOf (entry : KeyEntry) (key : APIKey) : Prop where
  keyId : key.keyId = entry.keyId
  tenantId : key.tenantId.val = entry.tenantId.getD "default"
  secretSha256 : key.secretSha256.val = entry.secretSha256
  scopes : ∀ x, x ∈ key.scopes ↔ x.text ∈ entry.scopes

theorem APIKey.validate_ok {entry : KeyEntry} {key : APIKey} (h : APIKey.validate entry = .ok key) :
    KeyOf entry key := by
  unfold APIKey.validate at h
  dsimp only at h
  split_ifs at h
  split at h
  · cases h
  · rename_i scopes hscopes
    split_ifs at h
    cases h
    refine ⟨rfl, rfl, rfl, fun x => ?_⟩
    have htext : Function.Injective AuthScope.text := fun x y hxy =>
      Option.some.inj ((AuthScope.ofText_eq_some.mpr rfl).symm.trans
        (AuthScope.ofText_eq_some.mpr hxy))
    rw [List.mem_toFinset, ← mapM_ofText hscopes, List.mem_map_of_injective htext]

/-- **A loaded configuration holds the keys of the file**, in order. -/
theorem loadAuthConfig_ok {entries : List KeyEntry} {config : AuthConfig}
    (h : loadAuthConfig entries = .ok config) : List.Forall₂ KeyOf entries config.keys := by
  unfold loadAuthConfig at h
  obtain ⟨keys, hkeys, h⟩ := Raising.bind_ok h
  split_ifs at h
  cases h
  exact (Raising.mapM_ok hkeys).imp fun _ _ => APIKey.validate_ok

/-! ## Authorization -/

/-- What a verified token says is what the federated identity gets. -/
def VerifiesClaims (cfg : OIDCFederationConfiguration) (jwt : Jwt) (sha256 : String → HexDigest) :
    Prop :=
  ∀ token identity, verify cfg jwt sha256 token = .ok identity →
    ∃ claims, jwt.decode token = .ok claims ∧
      claims.lookup cfg.tenantClaim = some (.str identity.tenantId.val) ∧
      scopes cfg (claims.lookup cfg.scopeClaim) = .ok identity.scopes

/-- The scopes of a token are read off the set of its entries, within the limits of `_scopes`. -/
structure ScopesExact (cfg : OIDCFederationConfiguration) : Prop where
  /-- An accepted claim gives exactly its prefixed entries. -/
  exactly : ∀ raw result, scopes cfg raw = .ok result ↔ ∃ entries, scopeEntries raw = some entries ∧
    AcceptedClaim cfg entries ∧ ∀ x : TenantScope, x ∈ result ↔ cfg.entry x.text ∈ entries
  /-- Order and repetition do not matter. -/
  order : ∀ raw raw' entries entries', scopeEntries raw = some entries →
    scopeEntries raw' = some entries' → entries.length ≤ 100 → entries'.length ≤ 100 →
    (∀ e, e ∈ entries ↔ e ∈ entries') → ∀ result, scopes cfg raw = .ok result ↔
      scopes cfg raw' = .ok result
  /-- A prefixed `operator` rejects the token. -/
  operator : ∀ raw entries, scopeEntries raw = some entries → cfg.entry "operator" ∈ entries →
    ∃ e, scopes cfg raw = .error e

theorem scopesExact (cfg : OIDCFederationConfiguration) : ScopesExact cfg where
  exactly := fun _ _ => scopes_ok_iff
  order := by
    intro raw raw' entries entries' hraw hraw' hlength hlength' hsame result
    have hclaim : AcceptedClaim cfg entries ↔ AcceptedClaim cfg entries' := by
      constructor
      · rintro ⟨-, hentry, hoperator, x, hx⟩
        exact ⟨hlength', fun e he => hentry e ((hsame e).mpr he),
          fun h => hoperator ((hsame _).mpr h), x, (hsame _).mp hx⟩
      · rintro ⟨-, hentry, hoperator, x, hx⟩
        exact ⟨hlength, fun e he => hentry e ((hsame e).mp he),
          fun h => hoperator ((hsame _).mp h), x, (hsame _).mpr hx⟩
    rw [scopes_ok_iff, scopes_ok_iff, hraw, hraw']
    simp only [Option.some.injEq, exists_eq_left', hclaim, hsame]
  operator := by
    intro raw entries hraw hoperator
    cases hresult : scopes cfg raw with
    | error e => exact ⟨e, rfl⟩
    | ok result =>
      obtain ⟨entries', hraw', hclaim, -⟩ := scopes_ok_iff.mp hresult
      obtain rfl := Option.some.inj (hraw.symm.trans hraw')
      exact absurd hoperator hclaim.no_operator

/-- **Authorization is sound**: for every enabled deployment, credential and required scope, for
    every configuration file and for every token. -/
theorem authorization_sound (D : Deployment) (scope : AuthScope) (credentials : Option String)
    (cfg : OIDCFederationConfiguration) (jwt : Jwt) :
    GrantsSoundly D scope credentials ∧
      (∀ entries config, loadAuthConfig entries = .ok config →
        List.Forall₂ KeyOf entries config.keys) ∧
      VerifiesClaims cfg jwt D.sha256 ∧ ScopesExact cfg :=
  ⟨require_sound D scope credentials, fun _ _ => loadAuthConfig_ok, fun _ _ => verify_ok,
    scopesExact cfg⟩

/-- The defaults of `oidc_configuration_from_environment`. -/
def sampleConfiguration : OIDCFederationConfiguration :=
  ⟨"https://identity.example/realms/agents", ["RS256"], "aecontrol_tenant", "scope", "aecontrol:",
    by decide⟩

namespace Sample

def portfolio : TenantId := ⟨"portfolio", by decide⟩
def archive : TenantId := ⟨"archive", by decide⟩

/-- The digests of three secrets, and that of every other text. -/
def sha256 (secret : String) : HexDigest :=
  if secret = "operator-secret" then
    ⟨"aaaaaaaaaaaaaaaaaaaaaaaaaaaaaaaaaaaaaaaaaaaaaaaaaaaaaaaaaaaaaaaa", by decide +kernel⟩
  else if secret = "reviewer-secret" then
    ⟨"bbbbbbbbbbbbbbbbbbbbbbbbbbbbbbbbbbbbbbbbbbbbbbbbbbbbbbbbbbbbbbbb", by decide +kernel⟩
  else if secret = "archivist-secret" then
    ⟨"cccccccccccccccccccccccccccccccccccccccccccccccccccccccccccccccc", by decide +kernel⟩
  else ledgerGenesisSha256

def operatorKey : APIKey where
  keyId := "operator"
  tenantId := portfolio
  secretSha256 := sha256 "operator-secret"
  scopes := {AuthScope.operator}
  keyId_length := by decide
  scopes_ne := Finset.singleton_nonempty _
  isolated _ := rfl

def authConfig : AuthConfig where
  keys := [operatorKey]
  keys_ne := List.cons_ne_nil _ _
  ids := List.nodup_singleton _
  digests := List.nodup_singleton _

def tenantRow (tenantId : TenantId) (status : TenantStatus) : TenantRow where
  tenantId
  displayName := "Portfolio"
  status
  createdAt := 0
  createdBy := "operator"
  updatedAt := 0
  updatedBy := "operator"
  displayName_length := by decide

def keyRow (tenantId : TenantId) (keyId : { s : String // isTenantKeyId s = true })
    (secret : String) : KeyRow where
  tenantId
  keyId
  secretSha256 := sha256 secret
  scopes := [.read, .write]
  createdAt := 0
  createdBy := "operator"
  revoked := none
  scopes_ne := List.cons_ne_nil _ _

/-- An active tenant and a suspended one, with a key each. -/
def registry : Registry where
  tenants := [tenantRow portfolio .active, tenantRow archive .suspended]
  keys := [keyRow portfolio ⟨"reviewer", by decide⟩ "reviewer-secret",
    keyRow archive ⟨"archivist", by decide⟩ "archivist-secret"]
  quotas := []

/-- A token library that knows one token, of a pipeline of the portfolio. -/
def jwt : Jwt where
  getUnverifiedHeader _ := .ok [("alg", .str "RS256"), ("kid", .str "k1")]
  decode token :=
    if token = "header.payload.signature" then
      .ok [("sub", .str "pipeline"), ("aecontrol_tenant", .str "portfolio"),
        ("scope", .str "openid aecontrol:read")]
    else .error .invalidToken

/-- The operator has a static key, the tenants theirs in the registry, and tokens are verified. -/
def deployment : Deployment where
  config := some authConfig
  registry
  verifier := some (verify sampleConfiguration jwt sha256)
  sha256
  defaultTenant := portfolio
  enabled := rfl
  tenants_keyed := by
    unfold Keyed
    decide

end Sample

/-- The three sources of a deployment vouch for a principal each; the archivist's tenant is
    suspended, and its key is worth nothing. -/
theorem authorization_sound_deployment :
    OperatorKey Sample.deployment "operator-secret" ⟨"operator", Sample.portfolio, {.operator}⟩ ∧
      Vouched Sample.deployment "reviewer-secret"
        ⟨"reviewer", Sample.portfolio, {.read, .write}⟩ ∧
      Vouched Sample.deployment "header.payload.signature"
        ⟨"oidc:00000000000000000000", Sample.portfolio, {.read}⟩ ∧
      NotSuspended Sample.registry Sample.portfolio ∧
      Sample.deployment.authenticator.require .read (some "archivist-secret") =
        .error Authenticator.invalidCredential := by
  have hoperator : Sample.deployment.authenticator.require .operator (some "operator-secret") =
      .ok (⟨"operator", Sample.portfolio, {.operator}⟩, Sample.portfolio) := by decide +kernel
  have hreviewer : Sample.deployment.authenticator.require .write (some "reviewer-secret") =
      .ok (⟨"reviewer", Sample.portfolio, {.read, .write}⟩, Sample.portfolio) := by decide +kernel
  have hpipeline : Sample.deployment.authenticator.require .read
      (some "header.payload.signature") =
      .ok (⟨"oidc:00000000000000000000", Sample.portfolio, {.read}⟩, Sample.portfolio) := by
    decide +kernel
  have hsound := fun scope credentials =>
    (authorization_sound Sample.deployment scope credentials sampleConfiguration Sample.jwt).1
  obtain ⟨-, _, ⟨rfl⟩, -, hkey, -⟩ := hsound _ _ _ _ hoperator
  obtain ⟨-, _, ⟨rfl⟩, hvouched, -, htenant⟩ := hsound _ _ _ _ hreviewer
  obtain ⟨-, _, ⟨rfl⟩, hfederated, -, -⟩ := hsound _ _ _ _ hpipeline
  exact ⟨hkey rfl, hvouched, hfederated, (htenant (by decide)).2, by decide +kernel⟩

/-- **Repetition does matter beyond 100 entries**: one `aecontrol:read` is accepted, 101 of them are
    not. -/
theorem repetition_rejected :
    let single := [sampleConfiguration.entry "read"]
    let repeated := List.replicate 101 (sampleConfiguration.entry "read")
    (∀ e, e ∈ repeated ↔ e ∈ single) ∧
      scopes sampleConfiguration (some (.arr single)) = .ok {TenantScope.read} ∧
      scopes sampleConfiguration (some (.arr repeated)) =
        .error (.federation "federated token scope claim is invalid") := by
  refine ⟨fun e => by simp, ?_, ?_⟩
  · have hentry : ∀ scope, sampleConfiguration.entry scope = sampleConfiguration.entry "read" ↔
        scope = "read" := fun scope => by
      rw [OIDCFederationConfiguration.entry, OIDCFederationConfiguration.entry, Json.str.injEq,
        String.append_right_inj]
    refine scopes_ok_iff.mpr ⟨_, rfl, ⟨by simp, fun entry he => ?_, ?_, .read, ?_⟩, fun x => ?_⟩
    · obtain rfl := List.mem_singleton.mp he
      exact ⟨_, rfl, by decide⟩
    · rw [List.mem_singleton, hentry]
      decide
    · exact List.mem_singleton.mpr rfl
    · rw [List.mem_singleton, hentry, Finset.mem_singleton]
      cases x <;> decide
  · have hlength : 100 < (List.replicate 101 (sampleConfiguration.entry "read")).length := by
      rw [List.length_replicate]
      decide
    unfold scopes
    simp only [scopeEntries]
    exact if_pos hlength

end AEControl.Tenancy
