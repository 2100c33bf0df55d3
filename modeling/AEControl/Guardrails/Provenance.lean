/-
  Which activation the evidence of a check names.

  Activations are only appended, so `before n` shows the table as it was when `n` of them were
  committed.  A check names the activation that was the latest when it read.  That stays the latest
  to the end of the inference exactly if none of the configuration was committed in between:
  `attributed_iff` for one check, `provenance_iff` for every order of steps.

  Structure of the proof:
  1. registering and activating append to the two tables (`Extends`), so what was the latest at an
     earlier moment stays so (`Extends.latest_before`), and an attribution stays valid;
  2. **the crux**, `attributed_iff`: with the window between read and inference before it, evidence
     that names the latest activation at the read names it at the end exactly if the window is
     `Undisturbed`;
  3. `Inv`: every check under way has its moments in order, and what it read is recorded;
     `step_spec` is the step lemma over it, a case for each kind of call;
  4. `provenance_iff` for all interleavings of checks and activations, any number of each.
-/
import AEControl.Lib.Runs
import AEControl.Guardrails.Checks

namespace AEControl.Guardrails

open Table RowSecurity Evidence

/-! ## The latest activation -/

/-- The tables as they were when `n` activations were committed. -/
def before (n : ℕ) (db : Policies) : Policies :=
  { db with activations := db.activations.take n }

variable (t : TenantId)

/-- The tenant's activations of a configuration, in the order they were committed. -/
def activationsOf (configId : String) (db : Policies) : List ActivationRow :=
  (visible ActivationRow.tenantId t db.activations).filter fun a => a.configId.val = configId

/-- The latest activation of a configuration. -/
def latest (configId : String) (db : Policies) : Option ActivationRow :=
  (activationsOf t configId db).getLast?

/-- Activations are numbered in the order they were committed, of registered versions, and their
    identifiers are distinct. -/
structure Consistent (db : Policies) : Prop where
  numbered : (visible ActivationRow.tenantId t db.activations).Pairwise fun a b =>
    a.activationSequence < b.activationSequence
  registered : ∀ a ∈ visible ActivationRow.tenantId t db.activations,
    ∃ v, db.version? t a.configId.val a.version.val = some v
  distinct : (db.activations.map ActivationRow.activationId).Nodup

section
variable {t} {db : Policies}

/-- By descending numbers is latest first. -/
theorem history_eq_reverse (h : Consistent t db) :
    db.history t = (visible ActivationRow.tenantId t db.activations).reverse := by
  have hperm : (db.history t).Perm (visible ActivationRow.tenantId t db.activations).reverse :=
    (List.perm_insertionSort _ _).trans (List.reverse_perm _).symm
  have hsorted : (db.history t).Pairwise fun a b =>
      b.activationSequence ≤ a.activationSequence := by
    have : Std.Total fun a b : ActivationRow => b.activationSequence ≤ a.activationSequence :=
      ⟨fun a b => le_total _ _⟩
    have : IsTrans ActivationRow fun a b => b.activationSequence ≤ a.activationSequence :=
      ⟨fun _ _ _ hab hbc => le_trans hbc hab⟩
    exact List.pairwise_insertionSort _ _
  have hreverse := List.pairwise_reverse.mpr h.numbered
  have hne : (db.history t).Pairwise fun a b => a.activationSequence ≠ b.activationSequence := by
    refine hperm.symm.pairwise (hreverse.imp fun hab => hab.ne') fun hab => hab.symm
  have hstrict : (db.history t).Pairwise fun a b => b.activationSequence < a.activationSequence :=
    (hsorted.and hne).imp fun hab => lt_of_le_of_ne hab.1 hab.2.symm
  exact List.Perm.eq_of_pairwise (fun a b _ _ hab hba => absurd hab (lt_asymm hba)) hstrict
    hreverse hperm

/-- What a check reads is the latest activation, with the digest of its version. -/
theorem getActive_eq (h : Consistent t db) (configId : String) :
    db.getActiveGuardrailConfig t configId = (latest t configId db).bind (db.joined t) := by
  unfold Policies.getActiveGuardrailConfig latest activationsOf
  rw [history_eq_reverse h, List.filter_reverse, ← List.head?_reverse]
  have hsub : ∀ a ∈ ((visible ActivationRow.tenantId t db.activations).filter
      fun a => a.configId.val = configId).reverse, ∃ g, db.joined t a = some g := by
    intro a ha
    obtain ⟨v, hv⟩ := h.registered a (List.mem_of_mem_filter (List.mem_reverse.mp ha))
    exact ⟨_, by rw [Policies.joined, hv]; rfl⟩
  cases hrows : ((visible ActivationRow.tenantId t db.activations).filter
      fun a => a.configId.val = configId).reverse with
  | nil => rfl
  | cons a rows =>
    obtain ⟨g, hg⟩ := hsub a (by rw [hrows]; exact List.mem_cons_self)
    rw [List.filterMap_cons_some hg, List.head?_cons, List.head?_cons, Option.bind_some, hg]

end

/-! ## Tables only grow -/

/-- Activations are appended, and registered versions stay as they are. -/
structure Extends (db db' : Policies) : Prop where
  activations : db.activations <+: db'.activations
  versions : ∀ configId version v,
    db.version? t configId version = some v → db'.version? t configId version = some v

section
variable {t} {db db' : Policies}

/-- A table extends itself. -/
theorem Extends.refl (db : Policies) : Extends t db db := ⟨List.prefix_rfl, fun _ _ _ h => h⟩

/-- The past stays what it was. -/
theorem Extends.before_activations (h : Extends t db db') {n : ℕ}
    (hn : n ≤ db.activations.length) :
    (before n db').activations = (before n db).activations := by
  obtain ⟨rest, hrest⟩ := h.activations
  unfold before
  rw [← hrest]
  exact List.take_append_of_le_length hn

/-- What was active at an earlier moment stays so. -/
theorem Extends.latest_before (h : Extends t db db') {n : ℕ} (hn : n ≤ db.activations.length)
    (configId : String) : latest t configId (before n db') = latest t configId (before n db) := by
  unfold latest activationsOf
  rw [h.before_activations hn]

variable {configId version bundleSha256 description createdBy activatedBy : String}
  {now : Timestamp} {activationId : UUID} {sequence : ℕ}

variable (t db configId version bundleSha256 description createdBy now) in
/-- Registering appends a version at most. -/
theorem register_extends : Extends t db
    (db.registerGuardrailConfigVersion t configId version bundleSha256 description createdBy
      now).2 := by
  unfold Policies.registerGuardrailConfigVersion
  split
  · exact Extends.refl db
  · split
    · exact Extends.refl db
    · refine ⟨List.prefix_rfl, fun configId' version' v hv => ?_⟩
      show lookup _ _ (visible VersionRow.tenantId t (db.versions ++ [_])) = some v
      rw [visible_append, lookup, List.find?_append]
      rw [Policies.version?, lookup] at hv
      rw [hv, Option.some_or]

/-- Registering keeps the table consistent. -/
theorem register_consistent (h : Consistent t db) : Consistent t
    (db.registerGuardrailConfigVersion t configId version bundleSha256 description createdBy
      now).2 := by
  have hext := register_extends t db configId version bundleSha256 description createdBy now
  have hsame : (db.registerGuardrailConfigVersion t configId version bundleSha256 description
      createdBy now).2.activations = db.activations := by
    unfold Policies.registerGuardrailConfigVersion
    split
    · rfl
    · split <;> rfl
  refine ⟨hsame ▸ h.numbered, ?_, hsame ▸ h.distinct⟩
  intro a ha
  rw [hsame] at ha
  obtain ⟨v, hv⟩ := h.registered a ha
  exact ⟨v, hext.versions _ _ _ hv⟩

variable (t db configId version activatedBy activationId sequence now) in
/-- What an activation does: nothing, or it appends one of a registered version. -/
theorem activate_cases :
    (db.activateGuardrailConfig t configId version activatedBy activationId sequence now).2 = db ∨
      ∃ row : ActivationRow,
        (db.activateGuardrailConfig t configId version activatedBy activationId sequence now).2 =
          { db with activations := db.activations ++ [row] } ∧
        row.tenantId = t ∧ row.activationSequence = sequence ∧
        (∃ v, db.version? t row.configId.val row.version.val = some v) ∧
        ∀ a ∈ db.activations, a.activationId ≠ row.activationId := by
  unfold Policies.activateGuardrailConfig
  split
  · exact .inl rfl
  · rename_i v hversion
    split
    · exact .inl rfl
    · split
      · exact .inl rfl
      · rename_i htaken
        refine .inr ⟨_, rfl, rfl, rfl, ⟨v, ?_⟩, fun a ha heq => htaken ?_⟩
        · have hkey := (lookup_some hversion).2
          injection hkey with _ hkey
          injection hkey with hconfig hversion'
          show db.version? t v.configId.val v.version.val = some v
          rw [hconfig, hversion', hversion]
        · exact List.any_eq_true.mpr ⟨a, ha, by rw [heq]; simp⟩

variable (t db configId version activatedBy activationId sequence now) in
/-- Activating appends an activation at most. -/
theorem activate_extends : Extends t db
    (db.activateGuardrailConfig t configId version activatedBy activationId sequence now).2 := by
  rcases activate_cases t db configId version activatedBy now activationId sequence
    with h | ⟨row, h, -⟩
  · rw [h]
    exact Extends.refl db
  · rw [h]
    exact ⟨List.prefix_append _ _, fun _ _ _ hv => hv⟩

/-- An activation whose number is the greatest keeps the order. -/
theorem activate_consistent (h : Consistent t db)
    (horder : ∀ a ∈ visible ActivationRow.tenantId t db.activations,
      a.activationSequence < sequence) : Consistent t
    (db.activateGuardrailConfig t configId version activatedBy activationId sequence now).2 := by
  rcases activate_cases t db configId version activatedBy now activationId sequence
    with hdb | ⟨row, hdb, htenant, hsequence, hversion, hnew⟩
  · rw [hdb]
    exact h
  · have hvisible : visible ActivationRow.tenantId t (db.activations ++ [row]) =
        visible ActivationRow.tenantId t db.activations ++ [row] := visible_append_own htenant
    rw [hdb]
    refine ⟨?_, fun a ha => ?_, ?_⟩
    · rw [hvisible, List.pairwise_append]
      refine ⟨h.numbered, List.pairwise_singleton _ _, fun a ha b hb => ?_⟩
      rw [List.mem_singleton.mp hb, hsequence]
      exact horder a ha
    · rw [hvisible, List.mem_append, List.mem_singleton] at ha
      rcases ha with ha | rfl
      · exact h.registered a ha
      · exact hversion
    · rw [List.map_append, List.nodup_append]
      refine ⟨h.distinct, List.nodup_singleton _, ?_⟩
      rintro _ hx _ hy rfl
      obtain ⟨a, ha, haid⟩ := List.mem_map.mp hx
      exact hnew a ha (haid.trans (List.mem_singleton.mp hy))

end

/-! ## What evidence names -/

/-- The evidence has no provenance. -/
def Unmanaged (e : GuardrailEvidence) : Prop :=
  e.configVersion = none ∧ e.configBundleSha256 = none ∧ e.configActivationId = none

/-- The evidence names the activation, its version and the digest registered for that. -/
def Names (db : Policies) (e : GuardrailEvidence) (a : ActivationRow) : Prop :=
  e.configActivationId = some a.activationId ∧ e.configVersion = some a.version ∧
    ∃ v, db.version? t e.configId a.version.val = some v ∧
      e.configBundleSha256 = some v.bundleSha256

/-- When `n` activations were committed the evidence named the latest of its configuration, or had
    no provenance and there was none. -/
def AttributedAt (db : Policies) (e : GuardrailEvidence) (n : ℕ) : Prop :=
  Unmanaged e ∧ latest t e.configId (before n db) = none ∨
    ∃ a, Names t db e a ∧ latest t e.configId (before n db) = some a

/-- From the start to the end of its inference. -/
def Attributed (db : Policies) (e : GuardrailEvidence) (w : Window) : Prop :=
  ∀ n, w.started ≤ n → n ≤ w.ended → AttributedAt t db e n

/-- No activation of the configuration was committed between the read and the end of the
    inference. -/
def Undisturbed (db : Policies) (configId : String) (w : Window) : Prop :=
  ∀ a ∈ (db.activations.take w.ended).drop w.read, a.tenantId = t → a.configId.val ≠ configId

/-- The steps of a check came one after the other. -/
structure Window.Ordered (w : Window) (db : Policies) : Prop where
  read_le : w.read ≤ w.started
  started_le : w.started ≤ w.ended
  ended_le : w.ended ≤ db.activations.length

section
variable {t} {db db' : Policies} {e : GuardrailEvidence} {w : Window} {n : ℕ}

/-- An attribution stays valid in whatever comes later. -/
theorem Extends.attributedAt (h : Extends t db db') (hn : n ≤ db.activations.length)
    (ha : AttributedAt t db e n) : AttributedAt t db' e n := by
  unfold AttributedAt
  rw [h.latest_before hn]
  rcases ha with ha | ⟨a, ⟨hid, hversion, v, hv, hsha⟩, hlatest⟩
  · exact .inl ha
  · exact .inr ⟨a, ⟨hid, hversion, v, h.versions _ _ _ hv, hsha⟩, hlatest⟩

/-- The activations up to a moment are those up to an earlier one and those between. -/
theorem take_eq_append (db : Policies) {m : ℕ} (hmn : m ≤ n) :
    db.activations.take n = db.activations.take m ++ (db.activations.take n).drop m := by
  conv_lhs => rw [← List.take_append_drop m (db.activations.take n), List.take_take,
    Nat.min_eq_left hmn]

/-- Of a configuration, the activations up to `n` are those up to `m` and those in between. -/
theorem activationsOf_before {m : ℕ} (hmn : m ≤ n) (configId : String) :
    activationsOf t configId (before n db) = activationsOf t configId (before m db) ++
      (visible ActivationRow.tenantId t ((db.activations.take n).drop m)).filter
        fun a => a.configId.val = configId := by
  unfold activationsOf before
  dsimp only
  conv_lhs => rw [take_eq_append db hmn, visible_append, List.filter_append]

/-- Nothing in between: the latest is the same. -/
theorem latest_before_of_undisturbed {configId : String} (h : Undisturbed t db configId w)
    (hr : w.read ≤ n) (hn : n ≤ w.ended) :
    latest t configId (before n db) = latest t configId (before w.read db) := by
  have hnil : (visible ActivationRow.tenantId t ((db.activations.take n).drop w.read)).filter
      (fun a => a.configId.val = configId) = [] := by
    refine List.filter_eq_nil_iff.mpr fun a ha hconfig => ?_
    obtain ⟨hmem, htenant⟩ := mem_visible.mp ha
    refine h a ?_ htenant (of_decide_eq_true hconfig)
    have hsub : ((db.activations.take n).drop w.read).Sublist
        ((db.activations.take w.ended).drop w.read) :=
      (List.take_sublist_take_left hn).drop _
    exact hsub.subset hmem
  unfold latest
  rw [activationsOf_before hr, hnil, List.append_nil]

/-- Something in between: the latest is one of these. -/
theorem latest_before_of_mem {m : ℕ} (hmn : m ≤ n) {a : ActivationRow} {configId : String}
    (ha : a ∈ (db.activations.take n).drop m) (htenant : a.tenantId = t)
    (hconfig : a.configId.val = configId) :
    ∃ b ∈ (db.activations.take n).drop m, latest t configId (before n db) = some b := by
  have hmem : a ∈ (visible ActivationRow.tenantId t ((db.activations.take n).drop m)).filter
      fun a => a.configId.val = configId :=
    List.mem_filter.mpr ⟨mem_visible.mpr ⟨ha, htenant⟩, decide_eq_true hconfig⟩
  have hne := List.ne_nil_of_mem hmem
  refine ⟨List.getLast _ hne, (mem_visible.mp (List.mem_of_mem_filter
    (List.getLast_mem hne))).1, ?_⟩
  unfold latest
  rw [activationsOf_before hmn, List.getLast?_append_of_ne_nil _ hne,
    List.getLast?_eq_some_getLast hne]

/-- **The exact price.**  Evidence that named the latest activation at the read names it to the end
    of the inference exactly if none of its configuration was committed in between. -/
theorem attributed_iff (hdb : Consistent t db) (hw : w.Ordered db)
    (hread : AttributedAt t db e w.read) :
    Attributed t db e w ↔ Undisturbed t db e.configId w := by
  constructor
  · intro h a ha htenant hconfig
    have hle : w.read ≤ w.ended := hw.read_le.trans hw.started_le
    obtain ⟨b, hb, hlatest⟩ := latest_before_of_mem hle ha htenant hconfig
    have hend := h w.ended hw.started_le le_rfl
    unfold AttributedAt at hend
    rw [hlatest] at hend
    rcases hend with ⟨-, hnone⟩ | ⟨b', hnames, heq⟩
    · cases hnone
    cases heq
    -- the activation of the read has the same identifier as one committed later
    rcases hread with ⟨⟨hversion, -⟩, -⟩ | ⟨a', hnames', hlatest'⟩
    · exact absurd (hversion.symm.trans hnames.2.1) nofun
    have hid : a'.activationId = b.activationId :=
      Option.some.inj (hnames'.1.symm.trans hnames.1)
    have hnodup : ((db.activations.take w.ended).map ActivationRow.activationId).Nodup :=
      hdb.distinct.sublist ((List.take_sublist _ _).map _)
    rw [take_eq_append db hle, List.map_append, List.nodup_append] at hnodup
    have hmem : a' ∈ db.activations.take w.read :=
      (mem_visible.mp (List.mem_of_mem_filter (List.mem_of_getLast? hlatest'))).1
    exact hnodup.2.2 _ (List.mem_map_of_mem hmem) _ (List.mem_map_of_mem hb) hid
  · intro h n hstarted hended
    unfold AttributedAt
    rwa [latest_before_of_undisturbed h (hw.read_le.trans hstarted) hended]

end

/-! ## Every order of steps -/

/-- What is known of a check under way. -/
def Recorded (db : Policies) : Check → Prop
  | .read request active read => read ≤ db.activations.length ∧
      ∀ completion, AttributedAt t db (withProvenance request active completion) read
  | .inferring request active read started =>
      (read ≤ started ∧ started ≤ db.activations.length) ∧
      ∀ completion, AttributedAt t db (withProvenance request active completion) read
  | .answered e w => w.Ordered db ∧ AttributedAt t db e w.read
  | .stored _ | .failed _ => True

/-- The invariant of every order of steps. -/
structure Inv (s : Server) : Prop where
  consistent : Consistent t s.policies
  recorded : ∀ i c, s.checks i = some c → Recorded t s.policies c
  ended_le : ∀ e ∈ s.saved, e.window.ended ≤ s.policies.activations.length
  stored : ∀ e ∈ s.saved, s.checks e.check = some (.stored e.artifact.evidenceId)

/-- All stored evidence names the policy in force, and none is of a failed check. -/
structure Good (s : Server) : Prop where
  attributed : ∀ e ∈ s.saved, Attributed t s.policies e.artifact.evidence e.window
  unfailed : ∀ e ∈ s.saved, ∀ failure, s.checks e.check ≠ some (.failed failure)

/-- Activations are numbered in the order they are committed. -/
def InOrder (s : Server) : Event → Prop
  | .activate _ _ _ _ sequence _ =>
    ∀ a ∈ visible ActivationRow.tenantId t s.policies.activations, a.activationSequence < sequence
  | _ => True

/-- No activation of its configuration was committed between the read of a check that is stored
    and the end of its inference. -/
def Timely (s : Server) : Event → Prop
  | .save i _ _ none => ∀ e w, s.checks i = some (.answered e w) →
      Undisturbed t s.policies e.configId w
  | _ => True

section
variable {t} {s : Server}

/-- The moments of a check stay in order. -/
theorem Window.Ordered.extends {w : Window} {db db' : Policies} (hw : w.Ordered db)
    (h : Extends t db db') : w.Ordered db' :=
  ⟨hw.read_le, hw.started_le, hw.ended_le.trans h.activations.length_le⟩

/-- What a table recorded stays recorded. -/
theorem Extends.recorded {db db' : Policies} (h : Extends t db db') {c : Check}
    (hc : Recorded t db c) : Recorded t db' c := by
  have hlen := h.activations.length_le
  cases c with
  | read request active read =>
    exact ⟨hc.1.trans hlen, fun completion => h.attributedAt hc.1 (hc.2 completion)⟩
  | inferring request active read started =>
    exact ⟨⟨hc.1.1, hc.1.2.trans hlen⟩,
      fun completion => h.attributedAt (hc.1.1.trans hc.1.2) (hc.2 completion)⟩
  | answered e w =>
    have hread := hc.1.read_le.trans (hc.1.started_le.trans hc.1.ended_le)
    exact ⟨hc.1.extends h, h.attributedAt hread hc.2⟩
  | stored evidenceId => trivial
  | failed failure => trivial

/-- A step that only adds policies keeps what is known. -/
theorem Inv.extends (hs : Inv t s) {db' : Policies} (h : Extends t s.policies db')
    (hdb : Consistent t db') : Inv t { s with policies := db' } :=
  ⟨hdb, fun i c hc => h.recorded (hs.recorded i c hc),
    fun e he => (hs.ended_le e he).trans h.activations.length_le, hs.stored⟩

/-- A good state stays good when the table is extended. -/
theorem Good.extends (hs : Inv t s) (hg : Good t s) {db' : Policies}
    (h : Extends t s.policies db') : Good t { s with policies := db' } :=
  ⟨fun e he n hstarted hended => h.attributedAt (hended.trans (hs.ended_le e he))
    (hg.attributed e he n hstarted hended), hg.unfailed⟩

/-- A check that is not stored moves on. -/
theorem Inv.setCheck (hs : Inv t s) {i : ℕ} (hi : ∀ id, s.checks i ≠ some (.stored id)) {c : Check}
    (hc : Recorded t s.policies c) : Inv t (s.setCheck i c) := by
  refine ⟨hs.consistent, fun j d hd => ?_, hs.ended_le, fun e he => ?_⟩
  · by_cases hj : j = i
    · subst hj
      rw [show (s.setCheck j c).checks j = some c from Function.update_self ..] at hd
      cases hd
      exact hc
    · rw [show (s.setCheck i c).checks j = s.checks j from Function.update_of_ne hj ..] at hd
      exact hs.recorded j d hd
  · have hne : e.check ≠ i := fun heq => hi _ (heq ▸ hs.stored e he)
    rw [show (s.setCheck i c).checks e.check = s.checks e.check from Function.update_of_ne hne ..]
    exact hs.stored e he

/-- Evidence of a stored check is added. -/
theorem Inv.save (hs : Inv t s) {e : Saved}
    (hended : e.window.ended ≤ s.policies.activations.length)
    (hstored : s.checks e.check = some (.stored e.artifact.evidenceId)) :
    Inv t { s with saved := s.saved ++ [e] } := by
  refine ⟨hs.consistent, hs.recorded, fun e' he' => ?_, fun e' he' => ?_⟩
  · rcases List.mem_append.mp he' with he' | he'
    · exact hs.ended_le e' he'
    · rw [List.mem_singleton.mp he']
      exact hended
  · rcases List.mem_append.mp he' with he' | he'
    · exact hs.stored e' he'
    · rw [List.mem_singleton.mp he']
      exact hstored

/-- The evidence of a stored check is of no failed one. -/
theorem Inv.unfailed (hs : Inv t s) : ∀ e ∈ s.saved, ∀ failure,
    s.checks e.check ≠ some (.failed failure) := by
  intro e he failure hfailed
  rw [hs.stored e he] at hfailed
  cases hfailed

/-- A check that keeps the invariant keeps the state good. -/
theorem Good.setCheck (hg : Good t s) {i : ℕ} {c : Check} (h : Inv t (s.setCheck i c)) :
    Good t (s.setCheck i c) := ⟨hg.attributed, h.unfailed⟩

/-- The evidence of an answered check is stored: what was good stays so exactly if no activation came
    between the read of the check and the end of its inference. -/
theorem Inv.saved (hs : Inv t s) {e : Saved}
    (hi : s.checks e.check = some (.answered e.artifact.evidence e.window)) :
    Inv t { s.setCheck e.check (.stored e.artifact.evidenceId) with saved := s.saved ++ [e] } ∧
      (Good t s → (Good t { s.setCheck e.check (.stored e.artifact.evidenceId) with
          saved := s.saved ++ [e] } ↔
        Undisturbed t s.policies e.artifact.evidence.configId e.window)) := by
  obtain ⟨hw, hread⟩ := hs.recorded e.check _ hi
  have hset : Inv t (s.setCheck e.check (.stored e.artifact.evidenceId)) :=
    hs.setCheck (by rw [hi]; exact nofun) trivial
  have hinv := hset.save hw.ended_le (Function.update_self ..)
  have hprice := attributed_iff hs.consistent hw hread
  refine ⟨hinv, fun hg => ⟨fun hgood => ?_, fun hundisturbed => ⟨fun e' he' => ?_, hinv.unfailed⟩⟩⟩
  · exact hprice.mp (hgood.attributed e (List.mem_append_right _ List.mem_cons_self))
  · rcases List.mem_append.mp he' with he' | he'
    · exact hg.attributed e' he'
    · rw [List.mem_singleton.mp he']
      exact hprice.mpr hundisturbed

/-- What a check reads is the latest activation. -/
theorem recorded_readActive (hs : Consistent t s.policies) (request : GuardrailCheckRequest) :
    Recorded t s.policies (readActive t s.policies request) := by
  have hnow : before s.policies.activations.length s.policies = s.policies := by
    unfold before
    rw [List.take_length]
  -- the join finds the version of the latest activation, which is registered
  have hread : ∀ completion, AttributedAt t s.policies
      (withProvenance request (s.policies.getActiveGuardrailConfig t request.configId.val)
        completion) s.policies.activations.length := by
    intro completion
    rw [getActive_eq hs]
    cases hlatest : latest t request.configId.val s.policies with
    | none =>
      refine .inl ⟨⟨rfl, rfl, rfl⟩, ?_⟩
      rw [hnow]
      exact hlatest
    | some a =>
      have hmem := List.mem_filter.mp (List.mem_of_getLast? hlatest)
      have hconfig : a.configId.val = request.configId.val := of_decide_eq_true hmem.2
      obtain ⟨v, hv⟩ := hs.registered a hmem.1
      rw [Option.bind_some, Policies.joined, hv]
      refine .inr ⟨a, ⟨rfl, rfl, v, ?_, rfl⟩, ?_⟩
      · show s.policies.version? t request.configId.val a.version.val = some v
        rw [← hconfig]
        exact hv
      · rw [hnow]
        exact hlatest
  unfold readActive
  dsimp only
  split
  · exact ⟨le_rfl, hread⟩
  · split
    · exact ⟨le_rfl, hread⟩
    · trivial

/-- One step: the invariant stays, and what was good is good after it exactly if it is timely. -/
theorem step_spec (hs : Inv t s) (event : Event) (horder : InOrder t s event) :
    Inv t (step t s event) ∧ (Good t s → (Good t (step t s event) ↔ Timely t s event)) := by
  -- a step that is timely in any case keeps what was good
  have hkeep : ∀ s' : Server, Timely t s event → Inv t s' → (Good t s → Good t s') →
      Inv t s' ∧ (Good t s → (Good t s' ↔ Timely t s event)) :=
    fun s' htimely hinv hgood => ⟨hinv, fun hg => ⟨fun _ => htimely, fun _ => hgood hg⟩⟩
  -- a check that moves on had nothing stored
  have hmove : ∀ i c, Timely t s event → (∀ id, s.checks i ≠ some (.stored id)) →
      Recorded t s.policies c → Inv t (s.setCheck i c) ∧
        (Good t s → (Good t (s.setCheck i c) ↔ Timely t s event)) :=
    fun i c htimely hi hc =>
      hkeep _ htimely (hs.setCheck hi hc) (Good.setCheck · (hs.setCheck hi hc))
  cases event with
  | register configId version bundleSha256 description createdBy now =>
    have hext := register_extends t s.policies configId version bundleSha256 description createdBy
      now
    exact hkeep _ trivial (hs.extends hext (register_consistent hs.consistent))
      (Good.extends hs · hext)
  | activate configId version activatedBy activationId sequence now =>
    have hext := activate_extends t s.policies configId version activatedBy now activationId
      sequence
    exact hkeep _ trivial (hs.extends hext (activate_consistent hs.consistent horder))
      (Good.extends hs · hext)
  | read i request =>
    unfold step
    dsimp only
    split
    · rename_i hi
      exact hmove i _ trivial (by rw [hi]; exact nofun) (recorded_readActive hs.consistent request)
    · exact hkeep _ trivial hs id
  | start i =>
    unfold step
    dsimp only
    split
    · rename_i request active read hi
      have hc := hs.recorded i _ hi
      exact hmove i _ trivial (by rw [hi]; exact nofun) ⟨⟨hc.1, le_rfl⟩, hc.2⟩
    · exact hkeep _ trivial hs id
  | finish i answer =>
    unfold step
    dsimp only
    split
    · rename_i request active read started completion hi
      have hc := hs.recorded i _ hi
      exact hmove i _ trivial (by rw [hi]; exact nofun) ⟨⟨hc.1.1, hc.1.2, le_rfl⟩, hc.2 completion⟩
    · rename_i hi
      exact hmove i _ trivial (by rw [hi]; exact nofun) trivial
    · exact hkeep _ trivial hs id
  | save i evidenceId createdAt raised =>
    unfold step
    dsimp only
    split
    · rename_i e w hi
      obtain ⟨hinv, hgood⟩ := hs.saved (e := ⟨⟨evidenceId, createdAt, e⟩, i, w⟩) hi
      refine ⟨hinv, fun hg => (hgood hg).trans ⟨fun hundisturbed e' w' hi' => ?_, fun htimely =>
        htimely e w hi⟩⟩
      rw [hi] at hi'
      cases hi'
      exact hundisturbed
    · rename_i hi
      exact hmove i _ trivial (by rw [hi]; exact nofun) trivial
    -- no answer to save
    · rename_i raised _ _ hnot _
      refine hkeep _ ?_ hs id
      cases raised with
      | none => exact fun e w hi => absurd rfl (hnot e w hi)
      | some failure => trivial

/-- Before the first call there is nothing to attribute. -/
theorem empty_inv : Inv t empty :=
  ⟨⟨List.Pairwise.nil, fun _ h => absurd h List.not_mem_nil, List.nodup_nil⟩, fun _ _ => nofun,
    fun _ h => absurd h List.not_mem_nil, fun _ h => absurd h List.not_mem_nil⟩

/-- Before the first call nothing is wrong. -/
theorem empty_good : Good t empty :=
  ⟨fun _ h => absurd h List.not_mem_nil, fun _ h => absurd h List.not_mem_nil⟩

end

/-- In every order of steps: the stored evidence names the policy in force during its inference,
    and none is of a failed check, exactly if every check is timely when it is stored. -/
theorem provenance_iff (events : List Event)
    (horder : Runs.Along (step t) (InOrder t) empty events) :
    Runs.Throughout (step t) (Good t) empty events ↔
      Runs.Along (step t) (Timely t) empty events :=
  Runs.throughout_iff_along_within (step t) (Inv t)
    (fun _ event hs horder => (step_spec hs event horder).1)
    (fun _ event hs horder hg => (step_spec hs event horder).2 hg) empty_inv empty_good events
    horder

/-! ### A rollout during a check -/

theorem sampleName_valid : 1 ≤ "guard".length ∧ "guard".length ≤ 500 := by decide

theorem sampleText_valid : 1 ≤ "guard".length ∧ "guard".length ≤ 1000000 := by decide

def sampleRequest : GuardrailCheckRequest :=
  ⟨⟨"guard", sampleName_valid⟩, ⟨"guard", sampleName_valid⟩, ⟨"guard", sampleText_valid⟩, none,
    none, none⟩

def sampleDigest : String := String.ofList (List.replicate 64 '0')

def registerSample (version : String) : Event := .register "guard" version sampleDigest "" "ops" 0

def activateSample (version : String) (n : ℕ) : Event :=
  .activate "guard" version "ops" (BitVec.ofNat 128 n) n 0

/-- A check, with a second version activated before or during its inference. -/
def rollout (during : Bool) : List Event :=
  [registerSample "v1", registerSample "v2", activateSample "v1" 1] ++
    (if during then [.read 0 sampleRequest, activateSample "v2" 2]
      else [activateSample "v2" 2, .read 0 sampleRequest]) ++
    [.start 0, .finish 0 (.ok ⟨none, "guard", none, none⟩), .save 0 7 0 none]

def sampleTenant : TenantId := ⟨"default", isTenantId_default⟩

/-- The calls of the rollout come in their order, whenever the second version is activated. -/
theorem rollout_inOrder (during : Bool) :
    Runs.Along (step sampleTenant) (InOrder sampleTenant) empty (rollout during) := by
  cases during with
  | true =>
    refine ⟨trivial, trivial, ?_, trivial, ?_, trivial, trivial, trivial, trivial⟩
    · show ∀ a ∈ _, _
      decide
    · show ∀ a ∈ _, _
      decide
  | false =>
    refine ⟨trivial, trivial, ?_, ?_, trivial, trivial, trivial, trivial, trivial⟩
    · show ∀ a ∈ _, _
      decide
    · show ∀ a ∈ _, _
      decide

/-- **Activated during the inference, the second version is passed over**: the check is stored under
    the first. -/
theorem rollout_fails : ¬ Runs.Throughout (step sampleTenant) (Good sampleTenant) empty
    (rollout true) := by
  intro h
  have hlast := (Runs.Throughout.last h).attributed
  have hmem : _ ∈ (Runs.run (step sampleTenant) empty (rollout true)).saved := List.mem_cons_self
  rcases hlast _ hmem 2 (by decide) (by decide) with ⟨hunmanaged, -⟩ | ⟨a, hnames, hlatest⟩
  · exact absurd hunmanaged.1 nofun
  · have hv2 : (latest sampleTenant "guard" (before 2
        (Runs.run (step sampleTenant) empty (rollout true)).policies)).map (·.version.val) =
        some "v2" := rfl
    have hv1 : some "v1" = some a.version.val := congrArg (Option.map Subtype.val) hnames.2.1
    have ha : some a.version.val = some "v2" :=
      (congrArg (Option.map fun a : ActivationRow => a.version.val) hlatest).symm.trans hv2
    exact absurd (hv1.trans ha) (by decide)

/-- Activated before the check begins, the second version is the one the check is stored under. -/
theorem provenance_iff_before : Runs.Throughout (step sampleTenant) (Good sampleTenant) empty
    (rollout false) := by
  refine (provenance_iff sampleTenant _ (rollout_inOrder false)).mpr ?_
  refine ⟨trivial, trivial, trivial, trivial, trivial, trivial, trivial, ?_, trivial⟩
  intro e w hcheck
  have hwindow : some (Check.answered _ ⟨2, 2, 2⟩) = some (Check.answered e w) := hcheck
  injection hwindow with hwindow
  injection hwindow with _ hw
  rw [← hw]
  intro a ha
  exact absurd ha List.not_mem_nil

end AEControl.Guardrails
