/-
  Bipartite assignments: jobs on distinct slots, each on one it may use.

  An assignment is the list of its pairs.  A class of jobs is `Saturated` in it when every slot one
  of them may use is taken by one of them already; then no assignment puts more jobs of that class
  on slots (`Saturated.length_le`).  This count is the crux of everything else: a job that would
  make a saturated class larger cannot be added (`Saturated.not_assignable`), and an assignment
  whose left-out jobs all lie in a saturated class is a largest one (`Saturated.maximum`).

  `Clearable` is the problem with every slot offered anew in each of `w` rounds: more rounds never
  hurt, and as many rounds as jobs are enough.
-/
import Mathlib.Data.List.Perm.Subperm
import Mathlib.Data.List.Nodup
import Mathlib.Order.Bounds.Basic
import Mathlib.Data.Nat.Notation

namespace AEControl.Matching

variable {J S : Type*}

/-- Pairs of a job and its slot. -/
structure Assignment (allowed : J → S → Prop) (m : List (J × S)) : Prop where
  jobs_nodup : (m.map Prod.fst).Nodup
  slots_nodup : (m.map Prod.snd).Nodup
  allowed : ∀ p ∈ m, allowed p.1 p.2

/-- The jobs can all be on distinct slots at once. -/
def Assignable (allowed : J → S → Prop) (jobs : List J) : Prop :=
  ∃ m, Assignment allowed m ∧ ∀ j ∈ jobs, j ∈ m.map Prod.fst

/-- Every slot a job of `D` may use is taken by a job of `D`. -/
def Saturated (allowed : J → S → Prop) (m : List (J × S)) (D : J → Prop) : Prop :=
  ∀ j s, D j → allowed j s → ∃ j', D j' ∧ (j', s) ∈ m

variable {allowed : J → S → Prop} {m m' : List (J × S)}

/-- A part of an assignment is one. -/
theorem Assignment.sublist (h : Assignment allowed m) (hsub : m'.Sublist m) :
    Assignment allowed m' where
  jobs_nodup := h.jobs_nodup.sublist (hsub.map Prod.fst)
  slots_nodup := h.slots_nodup.sublist (hsub.map Prod.snd)
  allowed := fun p hp => h.allowed p (hsub.subset hp)

theorem Assignment.mono {allowed' : J → S → Prop} (h : Assignment allowed m)
    (himp : ∀ j s, allowed j s → allowed' j s) : Assignment allowed' m :=
  ⟨h.jobs_nodup, h.slots_nodup, fun p hp => himp _ _ (h.allowed p hp)⟩

theorem Assignable.mono {allowed' : J → S → Prop} {jobs : List J} (h : Assignable allowed jobs)
    (himp : ∀ j s, allowed j s → allowed' j s) : Assignable allowed' jobs := by
  obtain ⟨m, hm, hcover⟩ := h
  exact ⟨m, hm.mono himp, hcover⟩

theorem Assignable.subset {jobs jobs' : List J} (h : Assignable allowed jobs)
    (hsub : ∀ j ∈ jobs', j ∈ jobs) : Assignable allowed jobs' := by
  obtain ⟨m, hm, hcover⟩ := h
  exact ⟨m, hm, fun j hj => hcover j (hsub j hj)⟩

/-! ## Counting -/

section Counting

variable {D : J → Prop} [DecidablePred D]

/-- **The count.**  No assignment uses more jobs of a saturated class. -/
theorem Saturated.length_le (h : Saturated allowed m D) (hm' : Assignment allowed m') :
    (m'.filter fun p => D p.1).length ≤ (m.filter fun p => D p.1).length := by
  have hnodup : ((m'.filter fun p => D p.1).map Prod.snd).Nodup :=
    hm'.slots_nodup.sublist (List.filter_sublist.map Prod.snd)
  have hsub : (m'.filter fun p => D p.1).map Prod.snd ⊆ (m.filter fun p => D p.1).map Prod.snd := by
    intro s hs
    obtain ⟨p, hp, rfl⟩ := List.mem_map.mp hs
    obtain ⟨hp, hD⟩ := List.mem_filter.mp hp
    obtain ⟨j', hj', hmem⟩ := h p.1 p.2 (of_decide_eq_true hD) (hm'.allowed p hp)
    exact List.mem_map.mpr ⟨(j', p.2), List.mem_filter.mpr ⟨hmem, decide_eq_true hj'⟩, rfl⟩
  have hle := (hnodup.subperm hsub).length_le
  rw [List.length_map, List.length_map] at hle
  exact hle

/-- A job outside the assignment, in a saturated class whose other jobs are in it, cannot join
    them. -/
theorem Saturated.not_assignable (h : Saturated allowed m D) (hm : Assignment allowed m)
    {j : J} (hj : D j) (hout : j ∉ m.map Prod.fst) {jobs : List J}
    (hjobs : ∀ x, D x → x ∈ m.map Prod.fst ∨ x = j → x ∈ jobs) : ¬ Assignable allowed jobs := by
  rintro ⟨m', hm', hcover⟩
  -- the class's jobs in `m`, and `j`, are all placed by `m'`
  have hnodup : (j :: (m.filter fun p => D p.1).map Prod.fst).Nodup := by
    refine List.nodup_cons.mpr ⟨fun hmem => ?_, ?_⟩
    · exact hout ((List.filter_sublist.map Prod.fst).subset hmem)
    · exact hm.jobs_nodup.sublist (List.filter_sublist.map Prod.fst)
  have hplaced : ∀ x, D x → x ∈ m.map Prod.fst ∨ x = j →
      x ∈ (m'.filter fun p => D p.1).map Prod.fst := by
    intro x hx hmem
    obtain ⟨p, hp, rfl⟩ := List.mem_map.mp (hcover x (hjobs x hx hmem))
    exact List.mem_map.mpr ⟨p, List.mem_filter.mpr ⟨hp, decide_eq_true hx⟩, rfl⟩
  have hsub : j :: (m.filter fun p => D p.1).map Prod.fst ⊆
      (m'.filter fun p => D p.1).map Prod.fst := by
    intro x hx
    rcases List.mem_cons.mp hx with rfl | hx
    · exact hplaced x hj (Or.inr rfl)
    · obtain ⟨p, hp, rfl⟩ := List.mem_map.mp hx
      obtain ⟨hp, hD⟩ := List.mem_filter.mp hp
      exact hplaced p.1 (of_decide_eq_true hD) (Or.inl (List.mem_map_of_mem hp))
  have hle := (hnodup.subperm hsub).length_le
  rw [List.length_cons, List.length_map, List.length_map] at hle
  have hcount := h.length_le hm'
  omega

/-- An assignment whose left-out jobs all lie in a saturated class is a largest one. -/
theorem Saturated.maximum (h : Saturated allowed m D) {jobs : List J}
    (hrest : ∀ j ∈ jobs, j ∈ m.map Prod.fst ∨ D j) (hm' : Assignment allowed m')
    (hjobs : ∀ p ∈ m', p.1 ∈ jobs) : m'.length ≤ m.length := by
  have hnodup : ((m'.filter fun p => ¬ D p.1).map Prod.fst).Nodup :=
    hm'.jobs_nodup.sublist (List.filter_sublist.map Prod.fst)
  have hsub : (m'.filter fun p => ¬ D p.1).map Prod.fst ⊆
      (m.filter fun p => ¬ D p.1).map Prod.fst := by
    intro j hj
    obtain ⟨p, hp, rfl⟩ := List.mem_map.mp hj
    obtain ⟨hp, hD⟩ := List.mem_filter.mp hp
    have hD : ¬ D p.1 := of_decide_eq_true hD
    obtain ⟨p', hp', he⟩ := List.mem_map.mp ((hrest p.1 (hjobs p hp)).resolve_right hD)
    refine List.mem_map.mpr ⟨p', List.mem_filter.mpr ⟨hp', decide_eq_true ?_⟩, he⟩
    rw [he]
    exact hD
  have hout := (hnodup.subperm hsub).length_le
  rw [List.length_map, List.length_map] at hout
  have hin := h.length_le hm'
  have hsplit : ∀ l : List (J × S), l.length =
      (l.filter fun p => D p.1).length + (l.filter fun p => ¬ D p.1).length := by
    intro l
    have := List.length_eq_length_filter_add (l := l) fun p => decide (D p.1)
    simpa using this
  have h1 := hsplit m
  have h2 := hsplit m'
  omega

end Counting

/-! ## Names for jobs and slots -/

/-- The pairs of names stand for pairs that may be. -/
def Named {J' S' : Type*} (name : J → J') (slotName : S → S') (allowed : J → S → Prop)
    (j' : J') (s' : S') : Prop := ∃ j s, name j = j' ∧ slotName s = s' ∧ allowed j s

/-- Names that tell jobs and slots apart carry assignments over, in both directions. -/
theorem assignable_named {J' S' : Type*} {name : J → J'} {slotName : S → S'} {jobs : List J}
    {A : J → Prop} {B : S → Prop}
    (hname : ∀ j j', A j → A j' → name j = name j' → j = j')
    (hslot : ∀ s s', B s → B s' → slotName s = slotName s' → s = s')
    (hallowed : ∀ j s, allowed j s → A j ∧ B s) (hjobs : ∀ j ∈ jobs, A j) :
    Assignable (Named name slotName allowed) (jobs.map name) ↔ Assignable allowed jobs := by
  constructor
  · rintro ⟨m', hm', hcover⟩
    -- every pair of names stands for a pair
    have hlift : ∀ l : List (J' × S'), (∀ p ∈ l, Named name slotName allowed p.1 p.2) →
        ∃ m : List (J × S), m.map (fun p => (name p.1, slotName p.2)) = l ∧
          ∀ p ∈ m, allowed p.1 p.2 := by
      intro l
      induction l with
      | nil => exact fun _ => ⟨[], rfl, fun p hp => by cases hp⟩
      | cons p l ih =>
        intro hl
        obtain ⟨j, s, hj, hs, hjs⟩ := hl p List.mem_cons_self
        obtain ⟨m, hm, hall⟩ := ih fun x hx => hl x (List.mem_cons_of_mem _ hx)
        refine ⟨(j, s) :: m, by rw [List.map_cons, hm, hj, hs], ?_⟩
        exact List.forall_mem_cons.mpr ⟨hjs, hall⟩
    obtain ⟨m, rfl, hall⟩ := hlift m' hm'.allowed
    have hfst : (m.map fun p => (name p.1, slotName p.2)).map Prod.fst =
        (m.map Prod.fst).map name := by
      rw [List.map_map, List.map_map]
      rfl
    have hsnd : (m.map fun p => (name p.1, slotName p.2)).map Prod.snd =
        (m.map Prod.snd).map slotName := by
      rw [List.map_map, List.map_map]
      rfl
    refine ⟨m, ⟨List.Nodup.of_map name (hfst ▸ hm'.jobs_nodup),
      List.Nodup.of_map slotName (hsnd ▸ hm'.slots_nodup), hall⟩, ?_⟩
    intro j hj
    have hin := hcover (name j) (List.mem_map_of_mem hj)
    rw [hfst] at hin
    obtain ⟨x, hx, hxj⟩ := List.mem_map.mp hin
    obtain ⟨p, hp, rfl⟩ := List.mem_map.mp hx
    obtain rfl := hname p.1 j (hallowed _ _ (hall p hp)).1 (hjobs j hj) hxj
    exact hx
  · rintro ⟨m, hm, hcover⟩
    refine ⟨m.map fun p => (name p.1, slotName p.2), ⟨?_, ?_, ?_⟩, ?_⟩
    · rw [List.map_map]
      refine List.Nodup.map_on (fun p hp q hq he => ?_) hm.jobs_nodup.of_map
      have h := hname p.1 q.1 (hallowed _ _ (hm.allowed p hp)).1
        (hallowed _ _ (hm.allowed q hq)).1 he
      exact List.inj_on_of_nodup_map hm.jobs_nodup hp hq h
    · rw [List.map_map]
      refine List.Nodup.map_on (fun p hp q hq he => ?_) hm.slots_nodup.of_map
      have h := hslot p.2 q.2 (hallowed _ _ (hm.allowed p hp)).2
        (hallowed _ _ (hm.allowed q hq)).2 he
      exact List.inj_on_of_nodup_map hm.slots_nodup hp hq h
    · intro p hp
      obtain ⟨q, hq, rfl⟩ := List.mem_map.mp hp
      exact ⟨q.1, q.2, rfl, rfl, hm.allowed q hq⟩
    · intro j' hj'
      obtain ⟨j, hj, rfl⟩ := List.mem_map.mp hj'
      obtain ⟨p, hp, rfl⟩ := List.mem_map.mp (hcover j hj)
      exact List.mem_map.mpr
        ⟨(name p.1, slotName p.2), List.mem_map.mpr ⟨p, hp, rfl⟩, rfl⟩

/-! ## Rounds -/

section Rounds

variable {W : Type*} {worker : J → W → Prop} {jobs : List J}

/-- The slot of a worker in one of the first `w` rounds. -/
def InRounds (worker : J → W → Prop) (w : ℕ) (j : J) (slot : W × ℕ) : Prop :=
  worker j slot.1 ∧ slot.2 < w

/-- All jobs can be run in `w` rounds, one per worker per round. -/
def Clearable (worker : J → W → Prop) (jobs : List J) (w : ℕ) : Prop :=
  Assignable (InRounds worker w) jobs

theorem Clearable.mono {w w' : ℕ} (h : Clearable worker jobs w) (hle : w ≤ w') :
    Clearable worker jobs w' := by
  refine Assignable.mono h fun j slot hslot => ⟨hslot.1, ?_⟩
  have := hslot.2
  omega

theorem clearable_zero : Clearable worker jobs 0 ↔ jobs = [] := by
  constructor
  · rintro ⟨m, hm, hcover⟩
    rw [List.eq_nil_iff_forall_not_mem]
    intro j hj
    obtain ⟨p, hp, -⟩ := List.mem_map.mp (hcover j hj)
    exact absurd (hm.allowed p hp).2 (Nat.not_lt_zero _)
  · rintro rfl
    refine ⟨[], ⟨List.nodup_nil, List.nodup_nil, ?_⟩, ?_⟩
    · intro p hp
      cases hp
    · intro j hj
      cases hj

/-- Names carry the rounds over. -/
theorem clearable_named {J' W' : Type*} {name : J → J'} {workerName : W → W'}
    {A : J → Prop} {B : W → Prop}
    (hname : ∀ j j', A j → A j' → name j = name j' → j = j')
    (hworker : ∀ s s', B s → B s' → workerName s = workerName s' → s = s')
    (hallowed : ∀ j s, worker j s → A j ∧ B s) (hjobs : ∀ j ∈ jobs, A j) (w : ℕ) :
    Clearable (Named name workerName worker) (jobs.map name) w ↔ Clearable worker jobs w := by
  have hrel : InRounds (Named name workerName worker) w =
      Named name (fun slot : W × ℕ => (workerName slot.1, slot.2)) (InRounds worker w) := by
    funext j' slot'
    obtain ⟨s', i⟩ := slot'
    refine propext ⟨?_, ?_⟩
    · rintro ⟨⟨j, s, hj, hs, hjs⟩, hi⟩
      exact ⟨j, (s, i), hj, Prod.ext hs rfl, hjs, hi⟩
    · rintro ⟨j, ⟨s, i'⟩, hj, hs, hjs, hi⟩
      obtain ⟨rfl, rfl⟩ := Prod.mk.inj hs
      exact ⟨⟨j, s, hj, rfl, hjs⟩, hi⟩
  unfold Clearable
  rw [hrel]
  refine assignable_named (B := fun slot => B slot.1) hname ?_ ?_ hjobs
  · rintro ⟨s, i⟩ ⟨s', i'⟩ hs hs' he
    obtain ⟨he, rfl⟩ := Prod.mk.inj he
    rw [hworker s s' hs hs' he]
  · rintro j ⟨s, i⟩ ⟨hjs, -⟩
    exact hallowed j s hjs

/-- One job a round clears them all. -/
theorem clearable_length (hjobs : jobs.Nodup) (hworker : ∀ j ∈ jobs, ∃ s, worker j s) :
    Clearable worker jobs jobs.length := by
  classical
  induction jobs with
  | nil => exact clearable_zero.mpr rfl
  | cons j jobs ih =>
    obtain ⟨hj, hjobs⟩ := List.nodup_cons.mp hjobs
    obtain ⟨m, hm, hcover⟩ := ih hjobs fun x hx => hworker x (List.mem_cons_of_mem _ hx)
    obtain ⟨s, hs⟩ := hworker j List.mem_cons_self
    -- `m` may place `j` as well; it gets the last round instead
    have hrest := hm.sublist (List.filter_sublist (p := fun p => decide (p.1 ≠ j)))
    refine ⟨(j, (s, jobs.length)) :: m.filter (fun p => decide (p.1 ≠ j)), ⟨?_, ?_, ?_⟩, ?_⟩
    · refine List.nodup_cons.mpr ⟨fun hmem => ?_, hrest.jobs_nodup⟩
      obtain ⟨p, hp, he⟩ := List.mem_map.mp hmem
      exact of_decide_eq_true (List.mem_filter.mp hp).2 he
    · refine List.nodup_cons.mpr ⟨fun hmem => ?_, hrest.slots_nodup⟩
      obtain ⟨p, hp, he⟩ := List.mem_map.mp hmem
      have hlt : p.2.2 < jobs.length := (hrest.allowed p hp).2
      rw [he] at hlt
      exact absurd hlt (Nat.lt_irrefl _)
    · intro p hp
      rcases List.mem_cons.mp hp with rfl | hp
      · exact ⟨hs, Nat.lt_succ_self _⟩
      · have hin := hrest.allowed p hp
        exact ⟨hin.1, Nat.lt_succ_of_lt hin.2⟩
    · intro x hx
      rcases List.mem_cons.mp hx with rfl | hx
      · exact List.mem_cons_self
      · obtain ⟨p, hp, rfl⟩ := List.mem_map.mp (hcover x hx)
        have hne : p.1 ≠ j := fun he => hj (he ▸ hx)
        exact List.mem_cons_of_mem _
          (List.mem_map_of_mem (List.mem_filter.mpr ⟨hp, decide_eq_true hne⟩))

end Rounds

end AEControl.Matching
