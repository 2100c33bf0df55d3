/-
  `federation.py`: from the claims of a verified token to an identity.

  Signatures, keys and registered claims are PyJWT's (`Jwt`).  What the code itself decides is read
  off in `scopes_ok_iff`: which scope claims are accepted, and that the scopes are then exactly the
  prefixed entries.

  Structure of the proof:
  1. an entry of the claim is a scope of ours if it has the prefix (`unprefixed_eq_some`); without
     the prefix it is ignored, with it the rest has to be a tenant scope (`AcceptedEntry`);
  2. `mapScopes_ok_iff`, by induction on the entries: the loop accepts exactly the lists of accepted
     entries, and adds what they ask for;
  3. `scopes_ok_iff` adds the form of the claim, a text or an array within the limits, and
     `verify_ok` the tenant's claim and the tenants that the configuration allows.
-/
import Mathlib.Data.Finset.Insert
import AEControl.Lib.Except
import AEControl.Lib.Json
import AEControl.Tenancy.Registry

namespace AEControl.Tenancy

open Evidence

/-! ## Scopes and identities -/

/-- The text of a scope. -/
def TenantScope.text : TenantScope → String
  | read => "read"
  | write => "write"
  | admin => "admin"

/-- `scope in {"read", "write", "admin"}`. -/
def TenantScope.ofText (s : String) : Option TenantScope :=
  if s = "read" then some read else if s = "write" then some write
  else if s = "admin" then some admin else none

theorem TenantScope.ofText_eq_some {s : String} {x : TenantScope} :
    TenantScope.ofText s = some x ↔ s = x.text := by
  unfold ofText
  constructor
  · intro h
    split_ifs at h with hread hwrite hadmin
    · cases h; exact hread
    · cases h; exact hwrite
    · cases h; exact hadmin
  · rintro rfl
    cases x <;> decide

/-- `FederatedIdentity`. -/
structure FederatedIdentity where
  principalId : String
  tenantId : TenantId
  scopes : Finset TenantScope
  scopes_ne : scopes.Nonempty

/-- What a verifier raises. -/
inductive VerifyError where
  /-- `FederationError`. -/
  | federation (message : String)
  /-- `InvalidTokenError`, `PyJWKClientError`, `OverflowError`, `TypeError` or `ValueError`. -/
  | invalidToken
  | other (message : String)
  deriving DecidableEq, Repr

/-- What of an `OIDCFederationConfiguration` the code reads; PyJWT gets the rest. -/
structure OIDCFederationConfiguration where
  issuer : String
  algorithms : List String
  tenantClaim : String
  scopeClaim : String
  scopePrefix : String
  /-- `validate_security_boundaries`. -/
  claims_ne : tenantClaim ≠ scopeClaim

/-! ## `_scopes` -/

/-- `str.split()`. -/
def pySplit (s : String) : List String :=
  ((s.toList.splitOnP Text.isSpace).filter fun word => !word.isEmpty).map String.ofList

/-- The entries of a scope claim. -/
def scopeEntries : Option Json → Option (List Json)
  | some (.str s) => some ((pySplit s).map Json.str)
  | some (.arr items) => some items
  | _ => none

/-- An entry without the prefix, if it has it. -/
def unprefixed (scopePrefix entry : String) : Option String :=
  if scopePrefix.toList.isPrefixOf entry.toList then
    some (String.ofList (entry.toList.drop scopePrefix.toList.length))
  else none

/-- The loop over the entries. -/
def mapScopes (scopePrefix : String) : List Json → Finset TenantScope →
    Except VerifyError (Finset TenantScope)
  | [], mapped => .ok mapped
  | .str entry :: entries, mapped =>
    if 200 < entry.length then .error (.federation "federated token scope claim is invalid")
    else match unprefixed scopePrefix entry with
      | none => mapScopes scopePrefix entries mapped
      | some scope =>
        if scope = "operator" then
          .error (.federation "federated tokens cannot receive operator scope")
        else match TenantScope.ofText scope with
          | none => mapScopes scopePrefix entries mapped
          | some x => mapScopes scopePrefix entries (insert x mapped)
  | _ :: _, _ => .error (.federation "federated token scope claim is invalid")

/-- `_scopes`. -/
def scopes (cfg : OIDCFederationConfiguration) (raw : Option Json) :
    Except VerifyError (Finset TenantScope) :=
  match scopeEntries raw with
  | none => .error (.federation "federated token scope claim is invalid")
  | some entries =>
    if 100 < entries.length then .error (.federation "federated token scope claim is invalid")
    else do
      let mapped ← mapScopes cfg.scopePrefix entries ∅
      if mapped = ∅ then .error (.federation "federated token has no AgentEval scopes")
      else .ok mapped

/-- The entry that asks for a scope. -/
def OIDCFederationConfiguration.entry (cfg : OIDCFederationConfiguration) (scope : String) : Json :=
  .str (cfg.scopePrefix ++ scope)

theorem unprefixed_eq_some {scopePrefix entry scope : String} :
    unprefixed scopePrefix entry = some scope ↔ entry = scopePrefix ++ scope := by
  unfold unprefixed
  constructor
  · intro h
    split_ifs at h with hprefix
    obtain ⟨rest, hrest⟩ := List.isPrefixOf_iff_prefix.mp hprefix
    rw [← hrest, List.drop_left] at h
    obtain rfl := Option.some.inj h
    refine String.toList_inj.mp ?_
    rw [String.toList_append, String.toList_ofList, hrest]
  · rintro rfl
    rw [String.toList_append, if_pos (List.isPrefixOf_iff_prefix.mpr ⟨_, rfl⟩), List.drop_left,
      String.ofList_toList]

/-- An entry the loop accepts: a text within the limit that does not ask for `operator`. -/
def AcceptedEntry (scopePrefix : String) (entry : Json) : Prop :=
  ∃ s, entry = .str s ∧ s.length ≤ 200 ∧ s ≠ scopePrefix ++ "operator"

/-- An accepted entry adds the scope it asks for, if it asks for one. -/
theorem mapScopes_accepted {scopePrefix s : String} {entries : List Json}
    {mapped : Finset TenantScope} (hlength : s.length ≤ 200) (hoperator : s ≠ scopePrefix ++ "operator") :
    ∃ mapped', mapScopes scopePrefix (.str s :: entries) mapped =
        mapScopes scopePrefix entries mapped' ∧
      ∀ x, x ∈ mapped' ↔ x ∈ mapped ∨ s = scopePrefix ++ x.text := by
  rw [mapScopes, if_neg (not_lt.mpr hlength)]
  cases hscope : unprefixed scopePrefix s with
  | none =>
    refine ⟨mapped, rfl, fun x => ?_⟩
    have hne : s ≠ scopePrefix ++ x.text := fun h => by
      rw [unprefixed_eq_some.mpr h] at hscope
      cases hscope
    exact (or_iff_left hne).symm
  | some scope =>
    obtain rfl := unprefixed_eq_some.mp hscope
    -- past a common head, texts are compared by the rest
    have happend : ∀ t, scopePrefix ++ scope = scopePrefix ++ t ↔ scope = t := fun t =>
      String.append_right_inj scopePrefix
    have hscopeNe : scope ≠ "operator" := fun h => hoperator ((happend _).mpr h)
    dsimp only
    rw [if_neg hscopeNe]
    cases hx : TenantScope.ofText scope with
    | none =>
      refine ⟨mapped, rfl, fun x => ?_⟩
      have hne : scope ≠ x.text := fun h => by
        rw [TenantScope.ofText_eq_some.mpr h] at hx
        cases hx
      rw [happend, or_iff_left hne]
    | some y =>
      refine ⟨insert y mapped, rfl, fun x => ?_⟩
      have htext := TenantScope.ofText_eq_some.mp hx
      rw [Finset.mem_insert, happend, or_comm]
      refine or_congr_right ⟨fun h => h ▸ htext, fun h => ?_⟩
      have hx' := TenantScope.ofText_eq_some.mpr h
      exact Option.some.inj (hx'.symm.trans hx)

/-- Any other entry raises. -/
theorem mapScopes_refused {scopePrefix : String} {entry : Json} {entries : List Json}
    {mapped : Finset TenantScope} (h : ¬AcceptedEntry scopePrefix entry) :
    ∃ e, mapScopes scopePrefix (entry :: entries) mapped = .error e := by
  cases entry with
  | str s =>
    rw [mapScopes]
    by_cases hlength : 200 < s.length
    · exact ⟨_, if_pos hlength⟩
    · have hoperator : s = scopePrefix ++ "operator" := by
        by_contra hne
        exact h ⟨s, rfl, not_lt.mp hlength, hne⟩
      rw [if_neg hlength, unprefixed_eq_some.mpr hoperator]
      exact ⟨_, if_pos rfl⟩
  | null => exact ⟨_, rfl⟩
  | bool b => exact ⟨_, rfl⟩
  | int n => exact ⟨_, rfl⟩
  | float x => exact ⟨_, rfl⟩
  | arr items => exact ⟨_, rfl⟩
  | obj fields => exact ⟨_, rfl⟩

/-- **The loop**: it accepts exactly the lists of accepted entries, and adds what they ask for. -/
theorem mapScopes_ok_iff {scopePrefix : String} {entries : List Json}
    {mapped result : Finset TenantScope} :
    mapScopes scopePrefix entries mapped = .ok result ↔
      (∀ entry ∈ entries, AcceptedEntry scopePrefix entry) ∧
      ∀ x, x ∈ result ↔ x ∈ mapped ∨ Json.str (scopePrefix ++ x.text) ∈ entries := by
  induction entries generalizing mapped with
  | nil =>
    simp only [mapScopes, Except.ok.injEq, List.not_mem_nil, false_implies, implies_true, or_false,
      true_and]
    exact ⟨fun h x => by rw [h], fun h => (Finset.ext h).symm⟩
  | cons entry entries ih =>
    by_cases haccepted : AcceptedEntry scopePrefix entry
    · rw [List.forall_mem_cons, and_iff_right haccepted]
      obtain ⟨s, rfl, hlength, hoperator⟩ := haccepted
      obtain ⟨mapped', hstep, hmapped⟩ := mapScopes_accepted hlength hoperator
      rw [hstep, ih]
      refine and_congr_right fun _ => forall_congr' fun x => ?_
      rw [hmapped, List.mem_cons, Json.str.injEq, @eq_comm _ (scopePrefix ++ x.text), or_assoc]
    · obtain ⟨e, he⟩ : ∃ e, mapScopes scopePrefix (entry :: entries) mapped = .error e :=
        mapScopes_refused haccepted
      rw [he, List.forall_mem_cons]
      simp [haccepted]

/-- The scope claims that are accepted. -/
structure AcceptedClaim (cfg : OIDCFederationConfiguration) (entries : List Json) : Prop where
  length : entries.length ≤ 100
  entry : ∀ entry ∈ entries, ∃ s, entry = .str s ∧ s.length ≤ 200
  no_operator : cfg.entry "operator" ∉ entries
  some_scope : ∃ x : TenantScope, cfg.entry x.text ∈ entries

/-- **The scopes of a token**: its scope claim is accepted exactly if it is a text or an array
    within the limits, has no prefixed `operator` and a prefixed scope; the scopes are then exactly
    the prefixed entries. -/
theorem scopes_ok_iff {cfg : OIDCFederationConfiguration} {raw : Option Json}
    {result : Finset TenantScope} :
    scopes cfg raw = .ok result ↔ ∃ entries, scopeEntries raw = some entries ∧
      AcceptedClaim cfg entries ∧ ∀ x : TenantScope, x ∈ result ↔ cfg.entry x.text ∈ entries := by
  -- a text is checked entry by entry; the operator is refused over all of them
  have hentries : ∀ entries : List Json,
      (∀ entry ∈ entries, AcceptedEntry cfg.scopePrefix entry) ↔
        (∀ entry ∈ entries, ∃ s, entry = Json.str s ∧ s.length ≤ 200) ∧
          cfg.entry "operator" ∉ entries := by
    intro entries
    constructor
    · intro h
      refine ⟨fun entry hentry => ?_, fun hoperator => ?_⟩
      · obtain ⟨s, hs, hlength, -⟩ := h entry hentry
        exact ⟨s, hs, hlength⟩
      · obtain ⟨s, hs, -, hne⟩ := h _ hoperator
        exact hne (Json.str.inj hs).symm
    · rintro ⟨htext, hoperator⟩ entry hentry
      obtain ⟨s, rfl, hlength⟩ := htext entry hentry
      refine ⟨s, rfl, hlength, fun h => hoperator ?_⟩
      rw [OIDCFederationConfiguration.entry, ← h]
      exact hentry
  unfold scopes
  cases hraw : scopeEntries raw with
  | none => simp
  | some entries =>
    simp only [Option.some.injEq, exists_eq_left']
    by_cases hlength : 100 < entries.length
    · rw [if_pos hlength]
      constructor
      · intro h
        cases h
      · intro h
        exact absurd h.1.length (not_le.mpr hlength)
    rw [if_neg hlength]
    constructor
    · intro h
      obtain ⟨mapped, hmapped, h⟩ := Raising.bind_ok h
      split_ifs at h with hempty
      obtain rfl := Except.ok.inj h
      obtain ⟨haccepted, hmem⟩ := mapScopes_ok_iff.mp hmapped
      simp only [Finset.notMem_empty, false_or] at hmem
      obtain ⟨htext, hoperator⟩ := (hentries entries).mp haccepted
      obtain ⟨x, hx⟩ := Finset.nonempty_iff_ne_empty.mpr hempty
      exact ⟨⟨not_lt.mp hlength, htext, hoperator, x, (hmem x).mp hx⟩, hmem⟩
    · rintro ⟨hclaim, hmem⟩
      have hmapped : mapScopes cfg.scopePrefix entries ∅ = .ok result :=
        mapScopes_ok_iff.mpr ⟨(hentries entries).mpr ⟨hclaim.entry, hclaim.no_operator⟩, fun x => by
          rw [hmem x]
          simp [OIDCFederationConfiguration.entry]⟩
      obtain ⟨x, hx⟩ := hclaim.some_scope
      have hne : result ≠ ∅ := Finset.nonempty_iff_ne_empty.mp ⟨x, (hmem x).mpr hx⟩
      rw [hmapped]
      exact if_neg hne

/-! ## `verify` -/

/-- PyJWT: the unverified header of a token, and its claims after all checks, against the signing
    key that the JWKS names for it. -/
structure Jwt where
  getUnverifiedHeader : String → Except VerifyError (List (String × Json))
  decode : String → Except VerifyError (List (String × Json))

/-- `isinstance(value, str)` and not empty. -/
def nonemptyText : Option Json → Option String
  | some (.str s) => if s = "" then none else some s
  | _ => none

/-- `algorithm in self.configuration.algorithms`. -/
def OIDCFederationConfiguration.allows (cfg : OIDCFederationConfiguration) : Option Json → Bool
  | some (.str algorithm) => algorithm ∈ cfg.algorithms
  | _ => false

/-- `_identity_from_claims`. -/
def identityFromClaims (cfg : OIDCFederationConfiguration) (sha256 : String → HexDigest)
    (claims : List (String × Json)) : Except VerifyError FederatedIdentity :=
  match nonemptyText (claims.lookup "sub") with
  | none => .error (.federation "federated token subject is invalid")
  | some subject =>
    if 500 < subject.length then .error (.federation "federated token subject is invalid")
    else match claims.lookup cfg.tenantClaim with
      | some (.str tenant) =>
        if htenant : isTenantId tenant = true then
          match scopes cfg (claims.lookup cfg.scopeClaim) with
          | .error e => .error e
          | .ok mapped =>
            if hne : mapped.Nonempty then
              .ok ⟨"oidc:" ++ String.ofList
                ((sha256 (cfg.issuer ++ "\x00" ++ subject)).val.toList.take 20), ⟨tenant, htenant⟩,
                mapped, hne⟩
            else .error .invalidToken
        else .error (.federation "federated token tenant claim is invalid")
      | _ => .error (.federation "federated token tenant claim is invalid")

/-- The `except` clauses of `verify`. -/
def asFederationError {α : Type} : Except VerifyError α → Except VerifyError α
  | .error .invalidToken => .error (.federation "federated token validation failed")
  | result => result

/-- `OIDCFederatedTokenVerifier.verify`. -/
def verify (cfg : OIDCFederationConfiguration) (jwt : Jwt) (sha256 : String → HexDigest)
    (token : String) : Except VerifyError FederatedIdentity :=
  if 16384 < token.length then .error (.federation "federated token is too large")
  else asFederationError do
    let header ← jwt.getUnverifiedHeader token
    if !cfg.allows (header.lookup "alg") then
      .error (.federation "federated token algorithm is not allowed")
    else if (nonemptyText (header.lookup "kid")).isNone then
      .error (.federation "federated token is missing a key ID")
    else do
      let claims ← jwt.decode token
      identityFromClaims cfg sha256 claims

/-- **A federated identity is what the verified claims say**: their tenant and their scopes. -/
theorem verify_ok {cfg : OIDCFederationConfiguration} {jwt : Jwt} {sha256 : String → HexDigest}
    {token : String} {identity : FederatedIdentity} (h : verify cfg jwt sha256 token = .ok identity) :
    ∃ claims, jwt.decode token = .ok claims ∧
      claims.lookup cfg.tenantClaim = some (.str identity.tenantId.val) ∧
      scopes cfg (claims.lookup cfg.scopeClaim) = .ok identity.scopes := by
  unfold verify at h
  split at h
  · cases h
  -- an error is renamed, what is returned is not
  have hkept : ∀ {α : Type} {r : Except VerifyError α} {a : α}, asFederationError r = .ok a →
      r = .ok a := by
    intro α r a hr
    cases r with
    | ok b => exact hr
    | error e => cases e <;> cases hr
  obtain ⟨header, -, h⟩ := Raising.bind_ok (hkept h)
  split at h
  · cases h
  split at h
  · cases h
  obtain ⟨claims, hclaims, h⟩ := Raising.bind_ok h
  refine ⟨claims, hclaims, ?_⟩
  unfold identityFromClaims at h
  split at h
  · cases h
  split at h
  · cases h
  split at h
  · rename_i tenant htenant
    split at h
    · split at h
      · cases h
      · rename_i mapped hmapped
        split at h
        · obtain rfl := Except.ok.inj h
          exact ⟨htenant, hmapped⟩
        · cases h
    · cases h
  · cases h

end AEControl.Tenancy
