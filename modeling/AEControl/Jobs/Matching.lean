/-
  `_maximum_matching` (`capacity.py`): jobs in priority order onto eligible slots.

  Each job is the root of a breadth-first search over slots and the jobs that hold them; a free
  slot at the end of the search shifts every job on the way to it by one slot.  The invariants:

  * `Consistent` — the two dictionaries are inverse to each other and use eligible slots only;
  * `SearchInv`  — the search reaches a slot from the root through held slots (`Rooted`, with the
    depth that makes the shift end), and what it has scanned it has visited;
  * `ShiftInv`   — half way through the shift, one slot is in both hands;
  * `PrefixInv`  — after a prefix of the jobs, those left out lie in a class of jobs that is
    saturated, and stays so because no path to a free slot enters it.

  The crux is `place_spec`, one root: it is added to the jobs already matched, or the jobs the
  search visited are a saturated class (`Lib.Matching`) and it cannot be added.
-/
import AEControl.Lib.Dict
import AEControl.Lib.While
import AEControl.Lib.Matching

namespace AEControl.Jobs

open Matching

/-! ## The code -/

/-- `slot_to_job` and `job_to_slot`. -/
structure Owners (J S : Type*) where
  slotToJob : Dict S J
  jobToSlot : Dict J S

/-- The locals of one root's search. -/
structure Search (J S : Type*) where
  queue : List J
  visitedJobs : List J
  visitedSlots : List S
  slotParent : Dict S J
  freeSlot : Option S

section

variable {J S : Type*} [DecidableEq J] [DecidableEq S]

/-- The body of `for slot in eligible_slots[job_id]`. -/
def visit (slotToJob : Dict S J) (jobId : J) (slot : S) (s : Search J S) : Search J S :=
  if slot ∈ s.visitedSlots then s
  else
    let s := { s with
      visitedSlots := slot :: s.visitedSlots
      slotParent := s.slotParent.set slot jobId }
    match slotToJob.get slot with
    | none => { s with freeSlot := some slot }
    | some incumbent =>
      if incumbent ∈ s.visitedJobs then s
      else { s with
        visitedJobs := incumbent :: s.visitedJobs
        queue := s.queue ++ [incumbent] }

/-- `for slot in eligible_slots[job_id]`, up to its `break` at a free slot. -/
def scan (slotToJob : Dict S J) (jobId : J) : List S → Search J S → Search J S
  | [], s => s
  | slot :: slots, s =>
    let s := visit slotToJob jobId slot s
    if s.freeSlot.isSome then s else scan slotToJob jobId slots s

/-- `queue and free_slot is None`. -/
def searching (s : Search J S) : Bool := !s.queue.isEmpty && s.freeSlot.isNone

/-- The body of the search loop; `popleft` raises on an empty queue. -/
def searchBody (slotToJob : Dict S J) (eligibleSlots : J → List S) (s : Search J S) :
    Option (Search J S) :=
  match s.queue with
  | [] => none
  | jobId :: queue => some (scan slotToJob jobId (eligibleSlots jobId) { s with queue })

/-- The search of one root: every turn takes a job off the queue, and only matched jobs are put
    on it. -/
def searchFrom (o : Owners J S) (eligibleSlots : J → List S) (rootJob : J) :
    Option (Search J S) :=
  While.loop searching (searchBody o.slotToJob eligibleSlots) (o.jobToSlot.keys.length + 1)
    ⟨[rootJob], [rootJob], [], Dict.empty, none⟩

/-- The body of `while free_slot is not None`; `slot_parent[free_slot]` raises on a missing
    slot. -/
def shiftBody (slotParent : Dict S J) : Owners J S × Option S → Option (Owners J S × Option S)
  | (_, none) => none
  | (o, some freeSlot) => (slotParent.get freeSlot).map fun jobId =>
    (⟨o.slotToJob.set freeSlot jobId, o.jobToSlot.set jobId freeSlot⟩, o.jobToSlot.get jobId)

/-- `for root_job in job_ids`: the search, and the shift along the path it found. -/
def place (eligibleSlots : J → List S) (o : Owners J S) (rootJob : J) : Option (Owners J S) := do
  let s ← searchFrom o eligibleSlots rootJob
  let (o, _) ← While.loop (fun t => t.2.isSome) (shiftBody s.slotParent) s.visitedSlots.length
    (o, s.freeSlot)
  pure o

/-- `_maximum_matching`; `none` if it raises or does not end. -/
def maximumMatching (jobIds : List J) (eligibleSlots : J → List S) : Option (Dict J S) := do
  let o ← jobIds.foldlM (place eligibleSlots) ⟨Dict.empty, Dict.empty⟩
  pure o.jobToSlot

/-! ## Invariants -/

variable {eligible : J → List S}

/-- The two dictionaries agree, and jobs are on slots they may use. -/
structure Consistent (eligible : J → List S) (o : Owners J S) : Prop where
  holds : ∀ j slot, o.jobToSlot.get j = some slot → o.slotToJob.get slot = some j
  owned : ∀ slot j, o.slotToJob.get slot = some j → o.jobToSlot.get j = some slot
  allowed : ∀ j slot, o.jobToSlot.get j = some slot → slot ∈ eligible j

/-- Every visited slot has a parent that may use it: the root, or a job whose own slot was visited
    at a smaller depth. -/
def Rooted (o : Owners J S) (eligible : J → List S) (root : J) (slotParent : Dict S J)
    (slots : List S) (depth : S → ℕ) : Prop :=
  ∀ slot ∈ slots, depth slot < slots.length ∧ ∃ j, slotParent.get slot = some j ∧
    slot ∈ eligible j ∧
    (j = root ∨ ∃ prev ∈ slots, o.jobToSlot.get j = some prev ∧ depth prev < depth slot)

/-- The state of a search that has popped `busy` and not finished with it. -/
structure SearchInv (o : Owners J S) (eligible : J → List S) (root : J) (busy : Option J)
    (s : Search J S) : Prop where
  root_mem : root ∈ s.visitedJobs
  queue_mem : ∀ j ∈ s.queue, j ∈ s.visitedJobs
  rooted : ∃ depth, Rooted o eligible root s.slotParent s.visitedSlots depth
  jobs : ∀ j ∈ s.visitedJobs,
    j = root ∨ ∃ slot ∈ s.visitedSlots, o.jobToSlot.get j = some slot
  taken : ∀ slot ∈ s.visitedSlots,
    s.freeSlot = some slot ∨ ∃ j ∈ s.visitedJobs, o.slotToJob.get slot = some j
  free : ∀ slot, s.freeSlot = some slot → slot ∈ s.visitedSlots ∧ o.slotToJob.get slot = none
  scanned : s.freeSlot = none → ∀ j ∈ s.visitedJobs,
    j ∈ s.queue ∨ busy = some j ∨ ∀ slot ∈ eligible j, slot ∈ s.visitedSlots

/-- The jobs still to be popped: those in the queue and the matched ones not visited yet. -/
def pending (o : Owners J S) (s : Search J S) : ℕ :=
  s.queue.length + (o.jobToSlot.keys.filter (· ∉ s.visitedJobs)).length

/-! ## The search -/

theorem Rooted.mark {o : Owners J S} {root job : J} {slotParent : Dict S J} {slots : List S}
    {depth : S → ℕ} (h : Rooted o eligible root slotParent slots depth) {slot : S}
    (hnew : slot ∉ slots) (heligible : slot ∈ eligible job)
    (hjob : job = root ∨ ∃ prev ∈ slots, o.jobToSlot.get job = some prev) :
    ∃ depth', Rooted o eligible root (slotParent.set slot job) (slot :: slots) depth' := by
  have hne : ∀ x ∈ slots, x ≠ slot := fun x hx he => hnew (he ▸ hx)
  -- the new slot lies below the slot its parent holds
  obtain ⟨d, hd, hparent⟩ : ∃ d, d < slots.length + 1 ∧ (job = root ∨
      ∃ prev ∈ slots, o.jobToSlot.get job = some prev ∧ depth prev < d) := by
    rcases hjob with hroot | ⟨prev, hprev, hget⟩
    · exact ⟨0, by omega, Or.inl hroot⟩
    · have hlt := (h prev hprev).1
      exact ⟨depth prev + 1, by omega, Or.inr ⟨prev, hprev, hget, Nat.lt_succ_self _⟩⟩
  have hold : ∀ x ∈ slots, Function.update depth slot d x = depth x := fun x hx =>
    Function.update_of_ne (hne x hx) _ _
  refine ⟨Function.update depth slot d, ?_⟩
  intro x hx
  rcases List.mem_cons.mp hx with rfl | hx
  · rw [Function.update_self]
    refine ⟨hd, job, Dict.get_set_self _ _ _, heligible, ?_⟩
    rcases hparent with hroot | ⟨prev, hprev, hget, hlt⟩
    · exact Or.inl hroot
    · exact Or.inr ⟨prev, List.mem_cons_of_mem _ hprev, hget, by rw [hold prev hprev]; exact hlt⟩
  · obtain ⟨hlen, j, hget, helig, hj⟩ := h x hx
    rw [hold x hx]
    refine ⟨Nat.lt_succ_of_lt hlen, j, ?_, helig, ?_⟩
    · rw [Dict.get_set_of_ne (hne x hx)]
      exact hget
    · rcases hj with hroot | ⟨prev, hprev, hprevget, hlt⟩
      · exact Or.inl hroot
      · exact Or.inr ⟨prev, List.mem_cons_of_mem _ hprev, hprevget, by
          rw [hold prev hprev]; exact hlt⟩

/-- What one slot does to the search: seen before, free, held by a visited job, or held by a job
    that joins the queue. -/
theorem visit_cases (slotToJob : Dict S J) (job : J) (slot : S) (s : Search J S) :
    (slot ∈ s.visitedSlots ∧ visit slotToJob job slot s = s) ∨
    (slot ∉ s.visitedSlots ∧
      ((slotToJob.get slot = none ∧ visit slotToJob job slot s =
          { s with
            visitedSlots := slot :: s.visitedSlots
            slotParent := s.slotParent.set slot job
            freeSlot := some slot }) ∨
        ∃ incumbent, slotToJob.get slot = some incumbent ∧
          ((incumbent ∈ s.visitedJobs ∧ visit slotToJob job slot s =
              { s with
                visitedSlots := slot :: s.visitedSlots
                slotParent := s.slotParent.set slot job }) ∨
            (incumbent ∉ s.visitedJobs ∧ visit slotToJob job slot s =
              { s with
                visitedSlots := slot :: s.visitedSlots
                slotParent := s.slotParent.set slot job
                visitedJobs := incumbent :: s.visitedJobs
                queue := s.queue ++ [incumbent] })))) := by
  by_cases hslot : slot ∈ s.visitedSlots
  · exact Or.inl ⟨hslot, by rw [visit, if_pos hslot]⟩
  · refine Or.inr ⟨hslot, ?_⟩
    rw [visit, if_neg hslot]
    cases hget : slotToJob.get slot with
    | none => exact Or.inl ⟨rfl, rfl⟩
    | some incumbent =>
      refine Or.inr ⟨incumbent, rfl, ?_⟩
      by_cases hjob : incumbent ∈ s.visitedJobs
      · exact Or.inl ⟨hjob, if_pos hjob⟩
      · exact Or.inr ⟨hjob, if_neg hjob⟩

section Mark

variable {o : Owners J S} {root job : J} {busy : Option J} {s : Search J S} {slot : S}

theorem SearchInv.held (h : SearchInv o eligible root busy s) (hopen : s.freeSlot = none) :
    ∀ x ∈ s.visitedSlots, ∃ j ∈ s.visitedJobs, o.slotToJob.get x = some j := by
  intro x hx
  rcases h.taken x hx with hfree | hheld
  · rw [hopen] at hfree
    cases hfree
  · exact hheld

theorem SearchInv.rooted_mark (h : SearchInv o eligible root busy s) (hjob : job ∈ s.visitedJobs)
    (helig : slot ∈ eligible job) (hnew : slot ∉ s.visitedSlots) :
    ∃ depth, Rooted o eligible root (s.slotParent.set slot job) (slot :: s.visitedSlots) depth := by
  obtain ⟨depth, hrooted⟩ := h.rooted
  exact hrooted.mark hnew helig (h.jobs job hjob)

theorem SearchInv.jobs_mark (h : SearchInv o eligible root busy s) (slot : S) :
    ∀ j ∈ s.visitedJobs, j = root ∨ ∃ x ∈ slot :: s.visitedSlots, o.jobToSlot.get j = some x := by
  intro j hj
  rcases h.jobs j hj with hroot | ⟨x, hx, hget⟩
  · exact Or.inl hroot
  · exact Or.inr ⟨x, List.mem_cons_of_mem _ hx, hget⟩

theorem SearchInv.scanned_mark (h : SearchInv o eligible root busy s) (hopen : s.freeSlot = none)
    (slot : S) : ∀ j ∈ s.visitedJobs,
      j ∈ s.queue ∨ busy = some j ∨ ∀ x ∈ eligible j, x ∈ slot :: s.visitedSlots := by
  intro j hj
  rcases h.scanned hopen j hj with hq | hb | hall
  · exact Or.inl hq
  · exact Or.inr (Or.inl hb)
  · exact Or.inr (Or.inr fun x hx => List.mem_cons_of_mem _ (hall x hx))

/-- A free slot ends the search. -/
theorem SearchInv.mark_free (h : SearchInv o eligible root busy s) (hjob : job ∈ s.visitedJobs)
    (hopen : s.freeSlot = none) (helig : slot ∈ eligible job) (hnew : slot ∉ s.visitedSlots)
    (hget : o.slotToJob.get slot = none) :
    SearchInv o eligible root busy
      { s with
        visitedSlots := slot :: s.visitedSlots
        slotParent := s.slotParent.set slot job
        freeSlot := some slot } where
  root_mem := h.root_mem
  queue_mem := h.queue_mem
  rooted := h.rooted_mark hjob helig hnew
  jobs := h.jobs_mark slot
  taken := by
    intro x hx
    rcases List.mem_cons.mp hx with rfl | hx
    · exact Or.inl rfl
    · exact Or.inr (h.held hopen x hx)
  free := by
    intro x hx
    obtain rfl := Option.some.inj hx
    exact ⟨List.mem_cons_self, hget⟩
  scanned := by
    intro hnone
    cases hnone

/-- A slot held by a job visited before leaves the queue as it is. -/
theorem SearchInv.mark_held (h : SearchInv o eligible root busy s) (hjob : job ∈ s.visitedJobs)
    (hopen : s.freeSlot = none) (helig : slot ∈ eligible job) (hnew : slot ∉ s.visitedSlots)
    {incumbent : J} (hget : o.slotToJob.get slot = some incumbent)
    (hin : incumbent ∈ s.visitedJobs) :
    SearchInv o eligible root busy
      { s with
        visitedSlots := slot :: s.visitedSlots
        slotParent := s.slotParent.set slot job } where
  root_mem := h.root_mem
  queue_mem := h.queue_mem
  rooted := h.rooted_mark hjob helig hnew
  jobs := h.jobs_mark slot
  taken := by
    intro x hx
    rcases List.mem_cons.mp hx with rfl | hx
    · exact Or.inr ⟨incumbent, hin, hget⟩
    · exact Or.inr (h.held hopen x hx)
  free := by
    intro x hx
    rw [hopen] at hx
    cases hx
  scanned _ := h.scanned_mark hopen slot

/-- The holder of a slot joins the queue when it is visited first. -/
theorem SearchInv.mark_incumbent (h : SearchInv o eligible root busy s)
    (hjob : job ∈ s.visitedJobs) (hopen : s.freeSlot = none) (helig : slot ∈ eligible job)
    (hnew : slot ∉ s.visitedSlots) {incumbent : J} (hget : o.slotToJob.get slot = some incumbent)
    (hslot : o.jobToSlot.get incumbent = some slot) :
    SearchInv o eligible root busy
      { s with
        visitedSlots := slot :: s.visitedSlots
        slotParent := s.slotParent.set slot job
        visitedJobs := incumbent :: s.visitedJobs
        queue := s.queue ++ [incumbent] } where
  root_mem := List.mem_cons_of_mem _ h.root_mem
  queue_mem := by
    intro j hj
    rcases List.mem_append.mp hj with hj | hj
    · exact List.mem_cons_of_mem _ (h.queue_mem j hj)
    · rw [List.mem_singleton.mp hj]
      exact List.mem_cons_self
  rooted := h.rooted_mark hjob helig hnew
  jobs := by
    intro j hj
    rcases List.mem_cons.mp hj with rfl | hj
    · exact Or.inr ⟨slot, List.mem_cons_self, hslot⟩
    · exact h.jobs_mark slot j hj
  taken := by
    intro x hx
    rcases List.mem_cons.mp hx with rfl | hx
    · exact Or.inr ⟨incumbent, List.mem_cons_self, hget⟩
    · obtain ⟨j, hj, hx⟩ := h.held hopen x hx
      exact Or.inr ⟨j, List.mem_cons_of_mem _ hj, hx⟩
  free := by
    intro x hx
    rw [hopen] at hx
    cases hx
  scanned := by
    intro _ j hj
    rcases List.mem_cons.mp hj with rfl | hj
    · exact Or.inl (List.mem_append_right _ (List.mem_singleton_self _))
    · rcases h.scanned_mark hopen slot j hj with hq | hrest
      · exact Or.inl (List.mem_append_left _ hq)
      · exact Or.inr hrest

omit [DecidableEq S] in
/-- A matched job leaves the unvisited ones as it joins the queue. -/
theorem pending_enqueue {incumbent : J} (hkey : incumbent ∈ o.jobToSlot.keys)
    (hout : incumbent ∉ s.visitedJobs) :
    s.queue.length + 1 +
      (o.jobToSlot.keys.filter (· ∉ incumbent :: s.visitedJobs)).length ≤ pending o s := by
  have hmem : incumbent ∈ o.jobToSlot.keys.filter (· ∉ s.visitedJobs) :=
    List.mem_filter.mpr ⟨hkey, decide_eq_true hout⟩
  have hfilter : o.jobToSlot.keys.filter (· ∉ incumbent :: s.visitedJobs) =
      (o.jobToSlot.keys.filter (· ∉ s.visitedJobs)).filter (· ≠ incumbent) := by
    rw [List.filter_filter]
    refine List.filter_congr fun j _ => ?_
    rw [← Bool.decide_and]
    refine decide_eq_decide.mpr ?_
    rw [List.mem_cons, not_or]
  have hlt : ((o.jobToSlot.keys.filter (· ∉ s.visitedJobs)).filter (· ≠ incumbent)).length <
      (o.jobToSlot.keys.filter (· ∉ s.visitedJobs)).length :=
    List.length_filter_lt_length_iff_exists.mpr ⟨incumbent, hmem, by simp⟩
  unfold pending
  rw [hfilter]
  omega

end Mark

/-- One slot of the job being scanned. -/
theorem SearchInv.visit {o : Owners J S} (hc : Consistent eligible o) {root job : J}
    {s : Search J S} (h : SearchInv o eligible root (some job) s) (hjob : job ∈ s.visitedJobs)
    (hopen : s.freeSlot = none) {slot : S} (helig : slot ∈ eligible job) :
    SearchInv o eligible root (some job) (visit o.slotToJob job slot s) ∧
      slot ∈ (visit o.slotToJob job slot s).visitedSlots ∧
      (∀ x ∈ s.visitedSlots, x ∈ (visit o.slotToJob job slot s).visitedSlots) ∧
      (∀ x ∈ s.visitedJobs, x ∈ (visit o.slotToJob job slot s).visitedJobs) ∧
      pending o (visit o.slotToJob job slot s) ≤ pending o s := by
  have hslots : ∀ x ∈ s.visitedSlots, x ∈ slot :: s.visitedSlots := fun x hx =>
    List.mem_cons_of_mem _ hx
  rcases visit_cases o.slotToJob job slot s with
    ⟨hseen, hv⟩ | ⟨hnew, ⟨hget, hv⟩ | ⟨incumbent, hget, ⟨hin, hv⟩ | ⟨hout, hv⟩⟩⟩
  · rw [hv]
    exact ⟨h, hseen, fun x hx => hx, fun x hx => hx, Nat.le_refl _⟩
  · rw [hv]
    exact ⟨h.mark_free hjob hopen helig hnew hget, List.mem_cons_self, hslots, fun x hx => hx,
      Nat.le_refl _⟩
  · rw [hv]
    exact ⟨h.mark_held hjob hopen helig hnew hget hin, List.mem_cons_self, hslots,
      fun x hx => hx, Nat.le_refl _⟩
  · rw [hv]
    have hslot : o.jobToSlot.get incumbent = some slot := hc.owned slot incumbent hget
    refine ⟨h.mark_incumbent hjob hopen helig hnew hget hslot, List.mem_cons_self, hslots,
      fun x hx => List.mem_cons_of_mem _ hx, ?_⟩
    have hpending := pending_enqueue (Dict.mem_keys_of_get hslot) hout
    rw [pending, List.length_append]
    exact hpending

theorem scan_break {slotToJob : Dict S J} {job : J} {slot x : S} {slots : List S}
    {s : Search J S} (h : (visit slotToJob job slot s).freeSlot = some x) :
    scan slotToJob job (slot :: slots) s = visit slotToJob job slot s := by
  simp [scan, h]

theorem scan_next {slotToJob : Dict S J} {job : J} {slot : S} {slots : List S}
    {s : Search J S} (h : (visit slotToJob job slot s).freeSlot = none) :
    scan slotToJob job (slot :: slots) s =
      scan slotToJob job slots (visit slotToJob job slot s) := by
  simp [scan, h]

/-- The slots of the job being scanned: all visited, unless a free one ends the scan. -/
theorem SearchInv.scan {o : Owners J S} (hc : Consistent eligible o) {root job : J}
    (slots : List S) {s : Search J S} (h : SearchInv o eligible root (some job) s)
    (hjob : job ∈ s.visitedJobs) (hopen : s.freeSlot = none)
    (hslots : ∀ slot ∈ slots, slot ∈ eligible job) :
    SearchInv o eligible root (some job) (scan o.slotToJob job slots s) ∧
      (∀ x ∈ s.visitedSlots, x ∈ (scan o.slotToJob job slots s).visitedSlots) ∧
      ((scan o.slotToJob job slots s).freeSlot = none →
        ∀ slot ∈ slots, slot ∈ (scan o.slotToJob job slots s).visitedSlots) ∧
      pending o (scan o.slotToJob job slots s) ≤ pending o s := by
  induction slots generalizing s with
  | nil =>
    refine ⟨h, fun x hx => hx, fun _ slot hslot => ?_, Nat.le_refl _⟩
    cases hslot
  | cons slot slots ih =>
    obtain ⟨hinv, hmem, hslotsub, hjobsub, hpend⟩ :=
      h.visit hc hjob hopen (hslots slot List.mem_cons_self)
    cases hfree : (AEControl.Jobs.visit o.slotToJob job slot s).freeSlot with
    | some x =>
      rw [scan_break hfree]
      refine ⟨hinv, hslotsub, fun hnone => ?_, hpend⟩
      rw [hfree] at hnone
      cases hnone
    | none =>
      rw [scan_next hfree]
      obtain ⟨hinv', hsub, hall, hpend'⟩ := ih hinv (hjobsub job hjob) hfree
        fun x hx => hslots x (List.mem_cons_of_mem _ hx)
      refine ⟨hinv', fun x hx => hsub x (hslotsub x hx), ?_, Nat.le_trans hpend' hpend⟩
      intro hnone x hx
      rcases List.mem_cons.mp hx with rfl | hx
      · exact hsub x hmem
      · exact hall hnone x hx

/-- One turn of the search. -/
theorem SearchInv.body {o : Owners J S} (hc : Consistent eligible o) {root : J}
    {s : Search J S} (h : SearchInv o eligible root none s) (hcond : searching s = true) :
    ∃ t, searchBody o.slotToJob eligible s = some t ∧ SearchInv o eligible root none t ∧
      pending o t < pending o s := by
  have hopen : s.freeSlot = none := by
    have := (Bool.and_eq_true_iff.mp hcond).2
    simpa using this
  cases hqueue : s.queue with
  | nil =>
    rw [searching, hqueue] at hcond
    cases hcond
  | cons job queue =>
    have hjob : job ∈ s.visitedJobs := h.queue_mem job (by rw [hqueue]; exact List.mem_cons_self)
    have hpopped : SearchInv o eligible root (some job) { s with queue := queue } := by
      refine ⟨h.root_mem, ?_, h.rooted, h.jobs, h.taken, h.free, ?_⟩
      · intro j hj
        exact h.queue_mem j (by rw [hqueue]; exact List.mem_cons_of_mem _ hj)
      · intro hnone j hj
        rcases h.scanned hnone j hj with hq | hb | hall
        · rw [hqueue] at hq
          rcases List.mem_cons.mp hq with rfl | hq
          · exact Or.inr (Or.inl rfl)
          · exact Or.inl hq
        · cases hb
        · exact Or.inr (Or.inr hall)
    obtain ⟨hinv, -, hall, hpend⟩ :=
      hpopped.scan hc (eligible job) hjob hopen fun slot hslot => hslot
    refine ⟨_, by rw [searchBody, hqueue], ?_, ?_⟩
    · -- the job is done with, unless the search is over
      refine ⟨hinv.root_mem, hinv.queue_mem, hinv.rooted, hinv.jobs, hinv.taken, hinv.free, ?_⟩
      intro hnone j hj
      rcases hinv.scanned hnone j hj with hq | hb | hdone
      · exact Or.inl hq
      · obtain rfl := Option.some.inj hb
        exact Or.inr (Or.inr (hall hnone))
      · exact Or.inr (Or.inr hdone)
    · have hlt : pending o { s with queue := queue } < pending o s := by
        show queue.length + (o.jobToSlot.keys.filter (· ∉ s.visitedJobs)).length <
          s.queue.length + (o.jobToSlot.keys.filter (· ∉ s.visitedJobs)).length
        rw [hqueue, List.length_cons]
        omega
      exact Nat.lt_of_le_of_lt hpend hlt

/-- **The search ends**, with its queue empty or at a free slot. -/
theorem searchFrom_spec {o : Owners J S} (hc : Consistent eligible o) (root : J) :
    ∃ s, searchFrom o eligible root = some s ∧ SearchInv o eligible root none s ∧
      searching s = false := by
  refine While.loop_of_variant (SearchInv o eligible root none) (pending o)
    (fun s hs hcond => hs.body hc hcond) ⟨?_, ?_, ⟨fun _ => 0, ?_⟩, ?_, ?_, ?_, ?_⟩ ?_
  · exact List.mem_singleton_self root
  · intro j hj
    exact hj
  · intro slot hslot
    cases hslot
  · intro j hj
    exact Or.inl (List.mem_singleton.mp hj)
  · intro slot hslot
    cases hslot
  · intro slot hslot
    cases hslot
  · intro _ j hj
    exact Or.inl hj
  · have := List.length_filter_le (fun j => decide (j ∉ [root])) o.jobToSlot.keys
    show 1 + (o.jobToSlot.keys.filter (· ∉ [root])).length ≤ _
    omega

/-! ## The shift -/

/-- Every slot a job of `D` may use is held by a job of `D`. -/
def HeldWithin (o : Owners J S) (eligible : J → List S) (D : J → Prop) : Prop :=
  ∀ j slot, D j → slot ∈ eligible j → ∃ j', D j' ∧ o.jobToSlot.get j' = some slot

/-- The owners between two turns of the shift that began at `o₀`: the slot given up last is still
    in the hands of the job that has moved on. -/
structure ShiftInv (o₀ : Owners J S) (eligible : J → List S) (root : J) (slots : List S)
    (depth : S → ℕ) (D : J → Prop) (t : Owners J S × Option S) : Prop where
  holds : ∀ j slot, t.1.jobToSlot.get j = some slot → t.1.slotToJob.get slot = some j
  allowed : ∀ j slot, t.1.jobToSlot.get j = some slot → slot ∈ eligible j
  owned : ∀ slot j, t.1.slotToJob.get slot = some j →
    t.1.jobToSlot.get j = some slot ∨ t.2 = some slot
  vacant : ∀ slot, t.2 = some slot → slot ∈ slots ∧ ∀ j, t.1.jobToSlot.get j ≠ some slot
  above : ∀ slot, t.2 = some slot → ∀ j prev, o₀.jobToSlot.get j = some prev →
    depth prev < depth slot → t.1.jobToSlot.get j = some prev
  root_out : ∀ slot, t.2 = some slot → t.1.jobToSlot.get root = none
  placed : ∀ j, j ∈ t.1.jobToSlot.keys ↔ j ∈ o₀.jobToSlot.keys ∨ (t.2 = none ∧ j = root)
  within : HeldWithin t.1 eligible D
  outside : ∀ slot, t.2 = some slot → ∀ j, D j → slot ∉ eligible j

/-- How far the slot given up is from the root. -/
def distance (depth : S → ℕ) (t : Owners J S × Option S) : ℕ :=
  match t.2 with
  | none => 0
  | some slot => depth slot + 1

/-- The job that takes the slot: the root, which had none, or a job that gives up a slot closer to
    the root. -/
theorem ShiftInv.next {o₀ o : Owners J S} {root : J} {slotParent : Dict S J} {slots : List S}
    {depth : S → ℕ} {D : J → Prop} (hrooted : Rooted o₀ eligible root slotParent slots depth)
    {slot : S} (h : ShiftInv o₀ eligible root slots depth D (o, some slot)) :
    ∃ job, slotParent.get slot = some job ∧ slot ∈ eligible job ∧ ¬ D job ∧
      ((job = root ∧ o.jobToSlot.get job = none) ∨
        (job ≠ root ∧ ∃ prev ∈ slots, o.jobToSlot.get job = some prev ∧
          o₀.jobToSlot.get job = some prev ∧ depth prev < depth slot)) := by
  obtain ⟨-, job, hget, helig, hjob⟩ := hrooted slot (h.vacant slot rfl).1
  refine ⟨job, hget, helig, fun hD => h.outside slot rfl job hD helig, ?_⟩
  have hroot := h.root_out slot rfl
  rcases hjob with rfl | ⟨prev, hprev, hhold, hlt⟩
  · exact Or.inl ⟨rfl, hroot⟩
  · have hcur : o.jobToSlot.get job = some prev := h.above slot rfl job prev hhold hlt
    refine Or.inr ⟨?_, prev, hprev, hcur, hhold, hlt⟩
    rintro rfl
    have : o.jobToSlot.get job = none := hroot
    rw [hcur] at this
    cases this

/-- One turn of the shift. -/
theorem ShiftInv.body {o₀ : Owners J S} {root : J} {slotParent : Dict S J} {slots : List S}
    {depth : S → ℕ} {D : J → Prop} (hrooted : Rooted o₀ eligible root slotParent slots depth)
    {t : Owners J S × Option S} (h : ShiftInv o₀ eligible root slots depth D t)
    (hcond : t.2.isSome = true) :
    ∃ t', shiftBody slotParent t = some t' ∧ ShiftInv o₀ eligible root slots depth D t' ∧
      distance depth t' < distance depth t := by
  obtain ⟨o, free⟩ := t
  obtain ⟨slot, rfl⟩ := Option.isSome_iff_exists.mp hcond
  obtain ⟨job, hparent, helig, hD, hjob⟩ := h.next hrooted
  have hvacant : ∀ j, o.jobToSlot.get j ≠ some slot := (h.vacant slot rfl).2
  have hself : (o.jobToSlot.set job slot).get job = some slot := Dict.get_set_self _ _ _
  have hother : ∀ j, j ≠ job → (o.jobToSlot.set job slot).get j = o.jobToSlot.get j :=
    fun j hj => Dict.get_set_of_ne hj _ _
  -- no job but `job` holds the slot it gives up
  have hsole : ∀ j prev, o.jobToSlot.get job = some prev → o.jobToSlot.get j = some prev →
      j = job := by
    intro j prev hprev hj
    have h1 : o.slotToJob.get prev = some job := h.holds job prev hprev
    rw [h.holds j prev hj] at h1
    exact Option.some.inj h1
  -- a slot is given up by a job other than the root, for one further down
  have hgiven : ∀ prev, o.jobToSlot.get job = some prev → job ≠ root ∧ prev ∈ slots ∧
      o₀.jobToSlot.get job = some prev ∧ depth prev < depth slot := by
    intro prev hprev
    rcases hjob with ⟨-, hnone⟩ | ⟨hne, p, hp, hcur, hhold, hlt⟩
    · rw [hnone] at hprev
      cases hprev
    · obtain rfl := Option.some.inj (hcur.symm.trans hprev)
      exact ⟨hne, hp, hhold, hlt⟩
  refine ⟨(⟨o.slotToJob.set slot job, o.jobToSlot.set job slot⟩, o.jobToSlot.get job),
    by rw [shiftBody, hparent]; rfl, ?invariant, ?closer⟩
  case invariant =>
    refine { holds := ?holds, allowed := ?allowed, owned := ?owned, vacant := ?vacant,
             above := ?above, root_out := ?root_out, placed := ?placed, within := ?within,
             outside := ?outside }
    case holds =>
      intro j x hget
      rcases Dict.get_set_cases hget with ⟨rfl, rfl⟩ | ⟨-, hold⟩
      · exact Dict.get_set_self _ _ _
      · have hx : x ≠ slot := fun he => hvacant j (he ▸ hold)
        exact (Dict.get_set_of_ne hx _ _).trans (h.holds j x hold)
    case allowed =>
      intro j x hget
      rcases Dict.get_set_cases hget with ⟨rfl, rfl⟩ | ⟨-, hold⟩
      · exact helig
      · exact h.allowed j x hold
    case owned =>
      intro x j hget
      rcases Dict.get_set_cases hget with ⟨rfl, rfl⟩ | ⟨hx, hold⟩
      · exact Or.inl hself
      · rcases h.owned x j hold with hj | hfree
        · by_cases hjob' : j = job
          · subst hjob'
            exact Or.inr hj
          · exact Or.inl ((hother j hjob').trans hj)
        · exact absurd (Option.some.inj hfree).symm hx
    case vacant =>
      intro prev hprev
      refine ⟨(hgiven prev hprev).2.1, fun j hj => ?_⟩
      rcases Dict.get_set_cases hj with ⟨rfl, rfl⟩ | ⟨hne, hold⟩
      · exact hvacant j hprev
      · exact hne (hsole j prev hprev hold)
    case above =>
      intro prev hprev j p hp hlt
      obtain ⟨-, -, hhold, hq⟩ := hgiven prev hprev
      have hne : j ≠ job := by
        rintro rfl
        obtain rfl := Option.some.inj (hhold.symm.trans hp)
        exact Nat.lt_irrefl _ hlt
      exact (hother j hne).trans (h.above slot rfl j p hp (Nat.lt_trans hlt hq))
    case root_out =>
      intro prev hprev
      exact (hother root (Ne.symm (hgiven prev hprev).1)).trans (h.root_out slot rfl)
    case placed =>
      intro j
      have hkeys : j ∈ o.jobToSlot.keys ↔ j ∈ o₀.jobToSlot.keys := by
        rw [h.placed j]
        simp
      rw [Dict.mem_keys_set, hkeys]
      rcases hjob with ⟨rfl, hnone⟩ | ⟨hne, prev, -, hcur, hhold, -⟩
      · rw [and_iff_right hnone, or_comm]
      · have hin : job ∈ o₀.jobToSlot.keys := Dict.mem_keys_of_get hhold
        rw [hcur]
        constructor
        · rintro (rfl | hj)
          · exact Or.inl hin
          · exact Or.inl hj
        · rintro (hj | ⟨hnone, -⟩)
          · exact Or.inr hj
          · cases hnone
    case within =>
      intro j x hj hx
      obtain ⟨j', hj', hget⟩ := h.within j x hj hx
      have hne : j' ≠ job := fun he => hD (he ▸ hj')
      exact ⟨j', hj', (hother j' hne).trans hget⟩
    case outside =>
      intro prev hprev j hj hx
      obtain ⟨j', hj', hget⟩ := h.within j prev hj hx
      exact hD (hsole j' prev hprev hget ▸ hj')
  case closer =>
    show distance depth (_, o.jobToSlot.get job) < depth slot + 1
    cases hprev : o.jobToSlot.get job with
    | none => exact Nat.succ_pos _
    | some prev => exact Nat.succ_lt_succ (hgiven prev hprev).2.2.2

/-- **The shift ends**, with the root among the matched jobs and no other job added or lost. -/
theorem shift_spec {o : Owners J S} (hc : Consistent eligible o) {root : J}
    (hroot : root ∉ o.jobToSlot.keys) {D : J → Prop} (hD : HeldWithin o eligible D)
    {s : Search J S} (h : SearchInv o eligible root none s) {slot : S}
    (hfree : s.freeSlot = some slot) :
    ∃ o', While.loop (fun t => t.2.isSome) (shiftBody s.slotParent) s.visitedSlots.length
        (o, s.freeSlot) = some (o', none) ∧
      Consistent eligible o' ∧ HeldWithin o' eligible D ∧
      ∀ j, j ∈ o'.jobToSlot.keys ↔ j ∈ o.jobToSlot.keys ∨ j = root := by
  obtain ⟨depth, hrooted⟩ := h.rooted
  obtain ⟨hslot, hnone⟩ := h.free slot hfree
  -- nobody holds the free slot
  have hvacant : ∀ j, o.jobToSlot.get j ≠ some slot := by
    intro j hj
    rw [hc.holds j slot hj] at hnone
    cases hnone
  have hstart : ShiftInv o eligible root s.visitedSlots depth D (o, s.freeSlot) := by
    rw [hfree]
    refine ⟨hc.holds, hc.allowed, fun x j hx => Or.inl (hc.owned x j hx), ?_, ?_, ?_, ?_, hD, ?_⟩
    · intro x hx
      obtain rfl := Option.some.inj hx
      exact ⟨hslot, hvacant⟩
    · intro _ _ j prev hprev _
      exact hprev
    · intro _ _
      exact Dict.get_eq_none.mpr hroot
    · intro j
      simp
    · intro x hx j hj helig
      obtain rfl := Option.some.inj hx
      obtain ⟨j', -, hj'⟩ := hD j slot hj helig
      exact hvacant j' hj'
  have hfuel : distance depth (o, s.freeSlot) ≤ s.visitedSlots.length := by
    rw [hfree]
    exact (hrooted slot hslot).1
  -- the depth of the slot falls with every turn
  obtain ⟨⟨o', free⟩, hloop, hinv, hdone⟩ :=
    While.loop_of_variant (ShiftInv o eligible root s.visitedSlots depth D) (distance depth)
      (fun t ht hcond => ht.body hrooted hcond) hstart hfuel
  obtain rfl : free = none := Option.not_isSome_iff_eq_none.mp (by simpa using hdone)
  refine ⟨o', hloop, ⟨hinv.holds, ?_, hinv.allowed⟩, hinv.within, ?_⟩
  · intro x j hx
    exact (hinv.owned x j hx).resolve_right fun hnone => by cases hnone
  · intro j
    rw [hinv.placed j, and_iff_right rfl]

/-! ## One root -/

/-- **One root.**  It joins the matched jobs, and a class of jobs that held all its slots still
    does; or the jobs it reached hold all of theirs, and nothing changes. -/
theorem place_spec {o : Owners J S} (hc : Consistent eligible o) {root : J}
    (hroot : root ∉ o.jobToSlot.keys) {D : J → Prop} (hD : HeldWithin o eligible D) :
    ∃ o', place eligible o root = some o' ∧ Consistent eligible o' ∧
      (((∀ j, j ∈ o'.jobToSlot.keys ↔ j ∈ o.jobToSlot.keys ∨ j = root) ∧
          HeldWithin o' eligible D) ∨
        (o' = o ∧ ∃ V, V root ∧ (∀ j, V j → j ∈ o.jobToSlot.keys ∨ j = root) ∧
          HeldWithin o eligible V)) := by
  obtain ⟨s, hsearch, hinv, hdone⟩ := searchFrom_spec hc root
  cases hfree : s.freeSlot with
  | some slot =>
    obtain ⟨o', hloop, hc', hD', hkeys⟩ := shift_spec hc hroot hD hinv hfree
    refine ⟨o', ?_, hc', Or.inl ⟨hkeys, hD'⟩⟩
    show (searchFrom o eligible root).bind _ = _
    rw [hsearch]
    show Option.bind (While.loop _ _ _ _) _ = _
    rw [hloop]
    rfl
  | none =>
    refine ⟨o, ?_, hc, Or.inr ⟨rfl, (· ∈ s.visitedJobs), hinv.root_mem, ?_, ?_⟩⟩
    · show (searchFrom o eligible root).bind _ = _
      rw [hsearch]
      show Option.bind (While.loop _ _ _ _) _ = _
      rw [hfree, While.loop_of_done rfl]
      rfl
    · intro j hj
      rcases hinv.jobs j hj with hj | ⟨slot, -, hget⟩
      · exact Or.inr hj
      · exact Or.inl (Dict.mem_keys_of_get hget)
    · -- the queue is empty: every visited job has been scanned
      intro j slot hj helig
      have hempty : s.queue = [] := by
        have : (!s.queue.isEmpty && s.freeSlot.isNone) = false := hdone
        rw [hfree] at this
        simpa using this
      have hvisited : slot ∈ s.visitedSlots := by
        rcases hinv.scanned hfree j hj with hq | hb | hall
        · rw [hempty] at hq
          cases hq
        · cases hb
        · exact hall slot helig
      rcases hinv.taken slot hvisited with hslot | ⟨j', hj', hget⟩
      · rw [hfree] at hslot
        cases hslot
      · exact ⟨j', hj', hc.owned slot j' hget⟩

/-! ## All roots -/

/-- The owners after the jobs of `done`. -/
structure PrefixInv (eligible : J → List S) (done : List J) (o : Owners J S) : Prop where
  consistent : Consistent eligible o
  matched : ∀ j ∈ o.jobToSlot.keys, j ∈ done
  blocked : ∃ D, HeldWithin o eligible D ∧ ∀ j ∈ done, j ∈ o.jobToSlot.keys ∨ D j

/-- One job more: the others are matched as before, and if it is left out, it is for good. -/
theorem PrefixInv.place {done : List J} {o : Owners J S} (h : PrefixInv eligible done o)
    {root : J} (hroot : root ∉ done) :
    ∃ o', place eligible o root = some o' ∧ PrefixInv eligible (done ++ [root]) o' ∧
      (∀ j, j ≠ root → (j ∈ o'.jobToSlot.keys ↔ j ∈ o.jobToSlot.keys)) ∧
      (root ∉ o'.jobToSlot.keys → ∃ V, V root ∧ (∀ j, V j → j ∈ o.jobToSlot.keys ∨ j = root) ∧
        HeldWithin o eligible V) := by
  obtain ⟨D, hD, hblocked⟩ := h.blocked
  obtain ⟨o', hplace, hc', ⟨hkeys, hD'⟩ | ⟨rfl, V, hVroot, hVsub, hV⟩⟩ :=
    place_spec h.consistent (fun hmem => hroot (h.matched root hmem)) hD
  -- the job is matched
  · refine ⟨o', hplace, ⟨hc', ?_, D, hD', ?_⟩, ?_, ?_⟩
    · intro j hj
      rcases (hkeys j).mp hj with hj | rfl
      · exact List.mem_append_left _ (h.matched j hj)
      · exact List.mem_append_right _ (List.mem_singleton_self _)
    · intro j hj
      rcases List.mem_append.mp hj with hj | hj
      · exact (hblocked j hj).imp (fun hmem => (hkeys j).mpr (Or.inl hmem)) id
      · exact Or.inl ((hkeys j).mpr (Or.inr (List.mem_singleton.mp hj)))
    · intro j hj
      rw [hkeys j, or_iff_left hj]
    · intro hout
      exact absurd ((hkeys root).mpr (Or.inr rfl)) hout
  -- it is not: the jobs its search visited are blocked with the others
  · refine ⟨o', hplace, ⟨hc', ?_, fun j => D j ∨ V j, ?_, ?_⟩, fun _ _ => Iff.rfl,
      fun _ => ⟨V, hVroot, hVsub, hV⟩⟩
    · intro j hj
      exact List.mem_append_left _ (h.matched j hj)
    · rintro j slot (hj | hj) helig
      · obtain ⟨j', hj', hget⟩ := hD j slot hj helig
        exact ⟨j', Or.inl hj', hget⟩
      · obtain ⟨j', hj', hget⟩ := hV j slot hj helig
        exact ⟨j', Or.inr hj', hget⟩
    · intro j hj
      rcases List.mem_append.mp hj with hj | hj
      · exact (hblocked j hj).imp id Or.inl
      · rw [List.mem_singleton.mp hj]
        exact Or.inr (Or.inr hVroot)

/-- The jobs of a list in turn. -/
theorem PrefixInv.foldlM (jobs : List J) {done : List J} {o : Owners J S}
    (h : PrefixInv eligible done o) (hnodup : (done ++ jobs).Nodup) :
    ∃ o', jobs.foldlM (Jobs.place eligible) o = some o' ∧ PrefixInv eligible (done ++ jobs) o' ∧
      ∀ j, j ∉ jobs → (j ∈ o'.jobToSlot.keys ↔ j ∈ o.jobToSlot.keys) := by
  induction jobs generalizing done o with
  | nil =>
    refine ⟨o, rfl, ?_, fun _ _ => Iff.rfl⟩
    rw [List.append_nil]
    exact h
  | cons root jobs ih =>
    have hroot : root ∉ done := fun hmem =>
      (List.nodup_append.mp hnodup).2.2 root hmem root List.mem_cons_self rfl
    obtain ⟨o₁, hplace, hinv, hsame, -⟩ := h.place hroot
    have hnodup' : ((done ++ [root]) ++ jobs).Nodup := by
      rw [List.append_assoc]
      exact hnodup
    obtain ⟨o₂, hfold, hinv₂, hsame₂⟩ := ih hinv hnodup'
    refine ⟨o₂, ?_, ?_, ?_⟩
    · rw [List.foldlM_cons, hplace]
      exact hfold
    · rw [List.append_assoc] at hinv₂
      exact hinv₂
    · intro j hj
      obtain ⟨hne, hj⟩ := not_or.mp (mt List.mem_cons.mpr hj)
      rw [hsame₂ j hj, hsame j hne]

/-! ## The matching -/

/-- `slot in eligible_slots[job_id]`. -/
def Eligible (eligible : J → List S) (j : J) (slot : S) : Prop := slot ∈ eligible j

/-- What the matching of a list of jobs is to be. -/
structure ExactMatching (eligible : J → List S) (jobIds : List J) (m : Dict J S) : Prop where
  /-- Distinct jobs on distinct slots, each eligible. -/
  assignment : Assignment (Eligible eligible) m.items
  jobs : ∀ j ∈ m.keys, j ∈ jobIds
  /-- No assignment of these jobs has more pairs. -/
  maximum : ∀ m', Assignment (Eligible eligible) m' → (∀ p ∈ m', p.1 ∈ jobIds) →
    m'.length ≤ m.items.length
  /-- A job is matched exactly when it can be added to the jobs matched before it. -/
  priority : ∀ before j after, jobIds = before ++ j :: after →
    (j ∈ m.keys ↔ Assignable (Eligible eligible) (before.filter (· ∈ m.keys) ++ [j]))

/-- `job_to_slot` is an assignment. -/
theorem Consistent.assignment {o : Owners J S} (h : Consistent eligible o) :
    Assignment (Eligible eligible) o.jobToSlot.items where
  jobs_nodup := o.jobToSlot.nodup
  slots_nodup := by
    refine List.Nodup.map_on ?_ o.jobToSlot.nodup.of_map
    rintro ⟨j, slot⟩ hj ⟨j', slot'⟩ hj' he
    obtain rfl : slot = slot' := he
    have h1 := h.holds j slot (Dict.get_of_mem hj)
    rw [h.holds j' slot (Dict.get_of_mem hj')] at h1
    rw [Option.some.inj h1]
  allowed := fun p hp => h.allowed p.1 p.2 (Dict.get_of_mem hp)

omit [DecidableEq S] in
theorem HeldWithin.saturated {o : Owners J S} {D : J → Prop} (h : HeldWithin o eligible D) :
    Saturated (Eligible eligible) o.jobToSlot.items D := by
  intro j slot hj helig
  obtain ⟨j', hj', hget⟩ := h j slot hj helig
  exact ⟨j', hj', Dict.mem_of_get hget⟩

theorem PrefixInv.maximum {done : List J} {o : Owners J S} (h : PrefixInv eligible done o)
    {m' : List (J × S)} (hm' : Assignment (Eligible eligible) m') (hjobs : ∀ p ∈ m', p.1 ∈ done) :
    m'.length ≤ o.jobToSlot.items.length := by
  classical
  obtain ⟨D, hD, hblocked⟩ := h.blocked
  exact hD.saturated.maximum hblocked hm' hjobs

theorem prefixInv_empty : PrefixInv eligible [] (⟨Dict.empty, Dict.empty⟩ : Owners J S) := by
  refine ⟨⟨?_, ?_, ?_⟩, ?_, fun _ => False, ?_, ?_⟩
  · intro j slot hget
    cases hget
  · intro slot j hget
    cases hget
  · intro j slot hget
    cases hget
  · intro j hj
    cases hj
  · intro j slot hj
    exact hj.elim
  · intro j hj
    cases hj

/-- **The algorithm ends** with the invariant of all jobs. -/
theorem maximumMatching_spec {jobIds : List J} (hnodup : jobIds.Nodup) (eligible : J → List S) :
    ∃ o, maximumMatching jobIds eligible = some o.jobToSlot ∧ PrefixInv eligible jobIds o := by
  have hempty : PrefixInv eligible [] (⟨Dict.empty, Dict.empty⟩ : Owners J S) := prefixInv_empty
  obtain ⟨o, hfold, hinv, -⟩ := hempty.foldlM jobIds hnodup
  refine ⟨o, ?_, hinv⟩
  rw [maximumMatching, hfold]
  rfl

/-- The jobs that are matched at the end can be assigned all at once, and so can any of them. -/
theorem Consistent.assignable {o : Owners J S} (h : Consistent eligible o) {jobs : List J}
    (hjobs : ∀ j ∈ jobs, j ∈ o.jobToSlot.keys) : Assignable (Eligible eligible) jobs :=
  ⟨o.jobToSlot.items, h.assignment, hjobs⟩

/-- No job is left out exactly when all can be assigned. -/
theorem maximumMatching_full {jobIds : List J} (hnodup : jobIds.Nodup) (eligible : J → List S) :
    ∃ m, maximumMatching jobIds eligible = some m ∧
      (m.items.length = jobIds.length ↔ Assignable (Eligible eligible) jobIds) := by
  obtain ⟨o, hm, hinv⟩ := maximumMatching_spec hnodup eligible
  have hsub : o.jobToSlot.keys ⊆ jobIds := hinv.matched
  have hlength : o.jobToSlot.keys.length = o.jobToSlot.items.length := List.length_map _
  refine ⟨o.jobToSlot, hm, ?_, ?_⟩
  · intro hfull
    have hge : jobIds.length ≤ o.jobToSlot.keys.length := by omega
    have hperm : o.jobToSlot.keys.Perm jobIds :=
      (List.Nodup.subperm o.jobToSlot.nodup hsub).perm_of_length_le hge
    exact hinv.consistent.assignable fun j hj => hperm.mem_iff.mpr hj
  · rintro ⟨m', hm', hcover⟩
    -- the part of the assignment that is about these jobs
    have hpart : Assignment (Eligible eligible) (m'.filter fun p => p.1 ∈ jobIds) :=
      hm'.sublist List.filter_sublist
    have hle := hinv.maximum hpart fun p hp => of_decide_eq_true (List.mem_filter.mp hp).2
    have hall : jobIds ⊆ (m'.filter fun p => p.1 ∈ jobIds).map Prod.fst := by
      intro j hj
      obtain ⟨p, hp, rfl⟩ := List.mem_map.mp (hcover j hj)
      exact List.mem_map_of_mem (List.mem_filter.mpr ⟨hp, decide_eq_true hj⟩)
    have hge := (hnodup.subperm hall).length_le
    rw [List.length_map] at hge
    have hupper : o.jobToSlot.keys.length ≤ jobIds.length :=
      (List.Nodup.subperm o.jobToSlot.nodup hsub).length_le
    omega

/-- **Priority.**  The `k`-th job is matched exactly when it can be added to those before it. -/
theorem maximumMatching_priority {before after : List J} {j : J}
    (hnodup : (before ++ j :: after).Nodup) {m : Dict J S}
    (hm : maximumMatching (before ++ j :: after) eligible = some m) :
    j ∈ m.keys ↔ Assignable (Eligible eligible) (before.filter (· ∈ m.keys) ++ [j]) := by
  classical
  -- the owners before `j`, after `j`, and at the end
  have hbefore : before.Nodup := (List.nodup_append.mp hnodup).1
  have hj : j ∉ before := fun hmem =>
    (List.nodup_append.mp hnodup).2.2 j hmem j List.mem_cons_self rfl
  have hafter : j ∉ after ∧ after.Nodup :=
    List.nodup_cons.mp (List.nodup_append.mp hnodup).2.1
  have hempty : PrefixInv eligible [] (⟨Dict.empty, Dict.empty⟩ : Owners J S) := prefixInv_empty
  obtain ⟨o₁, hfold₁, hinv₁, -⟩ := hempty.foldlM before hbefore
  rw [List.nil_append] at hinv₁
  obtain ⟨o₂, hplace, hinv₂, hsame₂, hout⟩ := hinv₁.place hj
  have hsplit : ((before ++ [j]) ++ after).Nodup := by
    rw [List.append_assoc]
    exact hnodup
  obtain ⟨o, hfold, hinv, hsame⟩ := hinv₂.foldlM after hsplit
  obtain rfl : o.jobToSlot = m := by
    have hall : maximumMatching (before ++ j :: after) eligible = some o.jobToSlot := by
      rw [maximumMatching, List.foldlM_append, hfold₁]
      show Option.bind (List.foldlM _ o₁ (j :: after)) _ = _
      rw [List.foldlM_cons, hplace]
      show Option.bind (List.foldlM _ o₂ after) _ = _
      rw [hfold]
      rfl
    exact Option.some.inj (hall.symm.trans hm)
  have hkeys : ∀ x ∈ before, x ∈ o.jobToSlot.keys ↔ x ∈ o₁.jobToSlot.keys := by
    intro x hx
    have hne : x ≠ j := fun he => hj (he ▸ hx)
    have hnot : x ∉ after := fun hmem =>
      (List.nodup_append.mp hnodup).2.2 x hx x (List.mem_cons_of_mem _ hmem) rfl
    rw [hsame x hnot, hsame₂ x hne]
  constructor
  · intro hmatched
    refine hinv.consistent.assignable fun x hx => ?_
    rcases List.mem_append.mp hx with hx | hx
    · exact of_decide_eq_true (List.mem_filter.mp hx).2
    · rw [List.mem_singleton.mp hx]
      exact hmatched
  · intro hassignable
    by_contra hunmatched
    rw [hsame j hafter.1] at hunmatched
    obtain ⟨V, hVj, hVsub, hV⟩ := hout hunmatched
    refine hV.saturated.not_assignable hinv₁.consistent.assignment hVj
      (fun hmem => hj (hinv₁.matched j hmem)) (fun x _ hx => ?_) hassignable
    rcases hx with hx | rfl
    · have hbef := hinv₁.matched x hx
      exact List.mem_append_left _
        (List.mem_filter.mpr ⟨hbef, decide_eq_true ((hkeys x hbef).mpr hx)⟩)
    · exact List.mem_append_right _ (List.mem_singleton_self _)

/-- **Exact priority matching.**  For distinct jobs `_maximum_matching` ends, with an assignment to
    eligible slots that is a largest one and never passes over a job it could have added. -/
theorem maximumMatching_exact (jobIds : List J) (hdistinct : jobIds.Nodup)
    (eligible : J → List S) :
    ∃ m, maximumMatching jobIds eligible = some m ∧ ExactMatching eligible jobIds m := by
  obtain ⟨o, hm, hinv⟩ := maximumMatching_spec hdistinct eligible
  refine ⟨o.jobToSlot, hm, hinv.consistent.assignment, hinv.matched, fun m' => hinv.maximum, ?_⟩
  rintro before j after rfl
  exact maximumMatching_priority hdistinct hm

end

/-- Three jobs over two slots: the second takes the first one's slot and moves it on, the third
    is left out. -/
theorem maximumMatching_exact_sample :
    ∃ m, maximumMatching [0, 1, 2] (fun j => if j = 0 then ["a", "b"] else ["a"]) = some m ∧
      ExactMatching (fun j => if j = 0 then ["a", "b"] else ["a"]) [0, 1, 2] m :=
  maximumMatching_exact [0, 1, 2] (by decide) _

example : (maximumMatching [0, 1, 2] (fun j => if j = 0 then ["a", "b"] else ["a"])).map
    (·.items) = some [(0, "b"), (1, "a")] := by decide

end AEControl.Jobs
