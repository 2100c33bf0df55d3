/-
  Tasks under a semaphore of one event loop.

  The semaphore is `asyncio`'s: a counter, and a queue of waiters, each with a future.  A release
  completes the first future that is not done; its task holds nothing until its next turn, and until
  then newcomers queue up behind it, even when the counter is positive.  A task that gets its turn
  hands on what the counter still has.

  `Fair` is the invariant.  Its accounting gives the bound (`Fair.holding_le`), and its last field,
  no waiter is forgotten while the counter is positive, gives progress (`Fair.progress`): as long as
  a task is not done, some task has a turn.
-/
import Mathlib.Data.Finset.Card
import Mathlib.Data.Fintype.Card
import Mathlib.Algebra.Order.BigOperators.Group.Finset
import Mathlib.Data.List.Nodup

namespace AEControl.Semaphores

/-! ## The semaphore -/

/-- `_value`, and `_waiters` in order: whose future, and whether it is done. -/
structure Semaphore (τ : Type) where
  value : ℕ
  waiters : List (τ × Bool)

variable {τ : Type}

namespace Semaphore

/-- `locked`: a waiter goes before any newcomer. -/
def locked (s : Semaphore τ) : Bool := s.value = 0 || !s.waiters.isEmpty

/-- The first future that is not done gets its result. -/
def complete : List (τ × Bool) → Option (List (τ × Bool))
  | [] => none
  | (t, true) :: waiters => (complete waiters).map ((t, true) :: ·)
  | (t, false) :: waiters => some ((t, true) :: waiters)

/-- `while self._value > 0` around `_wake_up_next`. -/
def wakeUp : ℕ → List (τ × Bool) → Semaphore τ
  | 0, waiters => ⟨0, waiters⟩
  | value + 1, waiters =>
    match complete waiters with
    | none => ⟨value + 1, waiters⟩
    | some waiters' => wakeUp value waiters'

/-- `release`. -/
def release (s : Semaphore τ) : Semaphore τ :=
  match complete s.waiters with
  | none => ⟨s.value + 1, s.waiters⟩
  | some waiters => ⟨s.value, waiters⟩

/-- The end of a wait in `acquire`. -/
def leave [DecidableEq τ] (s : Semaphore τ) (t : τ) : Semaphore τ :=
  wakeUp s.value (s.waiters.filter (·.1 ≠ t))

/-- How many futures are done. -/
def granted (waiters : List (τ × Bool)) : ℕ := waiters.countP (·.2)

theorem complete_none {waiters : List (τ × Bool)} (h : complete waiters = none) :
    ∀ w ∈ waiters, w.2 = true := by
  induction waiters with
  | nil => exact fun w hw => absurd hw List.not_mem_nil
  | cons w waiters ih =>
    obtain ⟨t, b⟩ := w
    cases b with
    | false => cases h
    | true =>
      have hrest : complete waiters = none := Option.map_eq_none_iff.mp h
      exact List.forall_mem_cons.mpr ⟨rfl, ih hrest⟩

/-- One more future is done, of the same tasks in the same order. -/
theorem complete_some {waiters waiters' : List (τ × Bool)} (h : complete waiters = some waiters') :
    waiters'.map (·.1) = waiters.map (·.1) ∧ granted waiters' = granted waiters + 1 := by
  induction waiters generalizing waiters' with
  | nil => cases h
  | cons w waiters ih =>
    obtain ⟨t, b⟩ := w
    cases b with
    | false =>
      cases h
      exact ⟨rfl, by simp [granted]⟩
    | true =>
      obtain ⟨rest, hrest, rfl⟩ := Option.map_eq_some_iff.mp h
      obtain ⟨htasks, hgranted⟩ := ih hrest
      refine ⟨by simp [htasks], ?_⟩
      unfold granted at hgranted ⊢
      simp [hgranted]

/-- Waking up moves permits from the counter to futures, until one of the two runs out. -/
theorem wakeUp_spec (value : ℕ) (waiters : List (τ × Bool)) :
    (wakeUp value waiters).waiters.map (·.1) = waiters.map (·.1) ∧
      (wakeUp value waiters).value + granted (wakeUp value waiters).waiters =
        value + granted waiters ∧
      ((wakeUp value waiters).value = 0 ∨ ∀ w ∈ (wakeUp value waiters).waiters, w.2 = true) := by
  induction value generalizing waiters with
  | zero => exact ⟨rfl, rfl, .inl rfl⟩
  | succ value ih =>
    cases hc : complete waiters with
    | none =>
      have hw : wakeUp (value + 1) waiters = ⟨value + 1, waiters⟩ := by simp only [wakeUp, hc]
      rw [hw]
      exact ⟨rfl, rfl, .inr (complete_none hc)⟩
    | some waiters' =>
      have hw : wakeUp (value + 1) waiters = wakeUp value waiters' := by simp only [wakeUp, hc]
      obtain ⟨htasks, hgranted⟩ := complete_some hc
      obtain ⟨htasks', hsum, hend⟩ := ih waiters'
      rw [hw]
      exact ⟨htasks'.trans htasks, by omega, hend⟩

/-- A granted future is one of the futures. -/
theorem exists_granted {waiters : List (τ × Bool)} (h : 0 < granted waiters) :
    ∃ t, (t, true) ∈ waiters := by
  obtain ⟨⟨t, b⟩, hmem, hb⟩ := List.countP_pos_iff.mp h
  have hb : b = true := hb
  exact ⟨t, hb ▸ hmem⟩

theorem granted_filter [DecidableEq τ] {waiters : List (τ × Bool)} {t : τ}
    (hnodup : (waiters.map (·.1)).Nodup) (h : (t, true) ∈ waiters) :
    granted (waiters.filter (·.1 ≠ t)) + 1 = granted waiters := by
  induction waiters with
  | nil => cases h
  | cons w waiters ih =>
    obtain ⟨hnot, hrest⟩ := List.nodup_cons.mp hnodup
    rcases List.mem_cons.mp h with rfl | h
    · -- no other waiter is this task's
      have hsame : waiters.filter (·.1 ≠ t) = waiters := List.filter_eq_self.mpr fun w hw => by
        simpa using fun he => hnot (List.mem_map.mpr ⟨w, hw, he⟩)
      rw [List.filter_cons_of_neg (by simp), hsame]
      simp [granted]
    · have hne : w.1 ≠ t := fun he => hnot (List.mem_map.mpr ⟨(t, true), h, he.symm⟩)
      have hsum := ih hrest h
      rw [List.filter_cons_of_pos (by simpa using hne)]
      unfold granted at hsum ⊢
      rw [List.countP_cons, List.countP_cons]
      omega

end Semaphore

/-! ## Tasks -/

/-- Where a task is, whose result has the type `ρ`. -/
inductive Phase (ρ : Type) where
  | created
  | waiting
  /-- In the `async with` block. -/
  | holding
  | done (result : ρ)

variable {ρ : Type}

def Phase.isHolding : Phase ρ → Bool
  | holding => true
  | _ => false

def Phase.isDone : Phase ρ → Bool
  | done _ => true
  | _ => false

/-- How many turns the task still needs. -/
def Phase.turns : Phase ρ → ℕ
  | created => 3
  | waiting => 2
  | holding => 1
  | done _ => 0

structure Pool (τ ρ : Type) where
  semaphore : Semaphore τ
  phase : τ → Phase ρ

/-- A turn of a task. -/
inductive Turn (τ : Type) where
  | start (t : τ)
  /-- Its future is done. -/
  | resume (t : τ)
  /-- Its block ends. -/
  | finish (t : τ)

variable [DecidableEq τ]

/-- Which turns the event loop can give. -/
def Enabled (p : Pool τ ρ) : Turn τ → Prop
  | .start t => p.phase t = .created
  | .resume t => p.phase t = .waiting ∧ (t, true) ∈ p.semaphore.waiters
  | .finish t => p.phase t = .holding

/-- Task `t` is in a new phase, and the semaphore with it. -/
def Pool.put (p : Pool τ ρ) (t : τ) (phase : Phase ρ) (semaphore : Semaphore τ) : Pool τ ρ :=
  ⟨semaphore, Function.update p.phase t phase⟩

variable (result : τ → ρ)

/-- A turn; what is not enabled is skipped.  `result` is what the block of each task ends with. -/
def turn (p : Pool τ ρ) : Turn τ → Pool τ ρ
  | .start t =>
    match p.phase t with
    | .created =>
      if p.semaphore.locked then
        p.put t .waiting { p.semaphore with waiters := p.semaphore.waiters ++ [(t, false)] }
      else p.put t .holding { p.semaphore with value := p.semaphore.value - 1 }
    | _ => p
  | .resume t =>
    match p.phase t with
    | .waiting =>
      if (t, true) ∈ p.semaphore.waiters then p.put t .holding (p.semaphore.leave t) else p
    | _ => p
  | .finish t =>
    match p.phase t with
    | .holding => p.put t (.done (result t)) p.semaphore.release
    | _ => p

theorem put_phase {p : Pool τ ρ} {t u : τ} {phase : Phase ρ} {semaphore : Semaphore τ} :
    (p.put t phase semaphore).phase u = if u = t then phase else p.phase u :=
  Function.update_apply ..

/-- A task is done after a turn if it was before, or if the turn was its last. -/
theorem turn_done {result : τ → ρ} {p : Pool τ ρ} {event : Turn τ} {u : τ} {r : ρ} :
    (turn result p event).phase u = .done r ↔
      p.phase u = .done r ∨ event = .finish u ∧ p.phase u = .holding ∧ r = result u := by
  have hput : ∀ {t phase' semaphore}, (∀ x, p.phase t ≠ .done x) → (∀ x, phase' ≠ .done x) →
      ((p.put t phase' semaphore).phase u = .done r ↔ p.phase u = .done r) := by
    intro t phase' semaphore hold hnew
    rw [put_phase]
    split_ifs with hu
    · subst hu
      exact iff_of_false (hnew r) (hold r)
    · exact Iff.rfl
  cases event with
  | start t =>
    have hno : ¬ (Turn.start t = .finish u ∧ p.phase u = .holding ∧ r = result u) :=
      fun h => by cases h.1
    rw [or_iff_left hno]
    cases ht : p.phase t with
    | created =>
      simp only [turn, ht]
      split
      · exact hput (fun x hx => by rw [ht] at hx; cases hx) fun x hx => by cases hx
      · exact hput (fun x hx => by rw [ht] at hx; cases hx) fun x hx => by cases hx
    | _ => simp only [turn, ht]
  | resume t =>
    have hno : ¬ (Turn.resume t = .finish u ∧ p.phase u = .holding ∧ r = result u) :=
      fun h => by cases h.1
    rw [or_iff_left hno]
    cases ht : p.phase t with
    | waiting =>
      simp only [turn, ht]
      split
      · exact hput (fun x hx => by rw [ht] at hx; cases hx) fun x hx => by cases hx
      · exact Iff.rfl
    | _ => simp only [turn, ht]
  | finish t =>
    cases ht : p.phase t with
    | holding =>
      simp only [turn, ht]
      rw [put_phase]
      split_ifs with hu
      · subst hu
        rw [ht]
        constructor
        · intro h
          cases h
          exact .inr ⟨rfl, rfl, rfl⟩
        · rintro (h | ⟨-, -, rfl⟩)
          · cases h
          · rfl
      · exact (or_iff_left fun h => hu (Turn.finish.inj h.1).symm).symm
    | _ =>
      simp only [turn, ht]
      refine (or_iff_left fun h => ?_).symm
      obtain ⟨hevent, hholding, -⟩ := h
      rw [← Turn.finish.inj hevent, ht] at hholding
      cases hholding

/-- Every task is created, and the counter full. -/
def fresh (capacity : ℕ) : Pool τ ρ := ⟨⟨capacity, []⟩, fun _ => .created⟩

/-! ## What every turn keeps -/

section
variable [Fintype τ]

/-- The tasks in their block. -/
def Pool.holders (p : Pool τ ρ) : Finset τ := Finset.univ.filter fun t => (p.phase t).isHolding

/-- The invariant of tasks that share `capacity` permits. -/
structure Fair (capacity : ℕ) (p : Pool τ ρ) : Prop where
  /-- A permit is in the counter, with a future, or with a task in its block. -/
  permits : p.semaphore.value + Semaphore.granted p.semaphore.waiters + p.holders.card = capacity
  waiting_iff : ∀ t, p.phase t = .waiting ↔ t ∈ p.semaphore.waiters.map (·.1)
  nodup : (p.semaphore.waiters.map (·.1)).Nodup
  /-- No waiter is forgotten. -/
  awake : 0 < p.semaphore.value → ∀ w ∈ p.semaphore.waiters,
    0 < Semaphore.granted p.semaphore.waiters

variable {capacity : ℕ} {p : Pool τ ρ} {result}

omit [DecidableEq τ] in
theorem mem_holders {t : τ} : t ∈ p.holders ↔ (p.phase t).isHolding = true := by
  simp [Pool.holders]

/-- Who else is in its block does not change. -/
theorem card_holders_put (t : τ) (phase : Phase ρ) (semaphore : Semaphore τ) :
    (p.put t phase semaphore).holders.card + (if (p.phase t).isHolding then 1 else 0) =
      p.holders.card + if phase.isHolding then 1 else 0 := by
  have hself : (p.put t phase semaphore).phase t = phase := Function.update_self ..
  have herase : (p.put t phase semaphore).holders.erase t = p.holders.erase t := by
    ext u
    rw [Finset.mem_erase, Finset.mem_erase]
    refine and_congr_right fun hne => ?_
    rw [mem_holders, mem_holders]
    exact iff_of_eq (congrArg (fun x => Phase.isHolding x = true) (Function.update_of_ne hne ..))
  have hcard : ∀ s : Finset τ, s.card = (s.erase t).card + if t ∈ s then 1 else 0 := by
    intro s
    split_ifs with h
    · exact (Finset.card_erase_add_one h).symm
    · rw [Finset.erase_eq_of_notMem h, Nat.add_zero]
  rw [hcard (p.put t phase semaphore).holders, hcard p.holders, herase]
  simp only [mem_holders, hself]
  omega

omit [DecidableEq τ] in
theorem fair_fresh (capacity : ℕ) : Fair capacity (fresh capacity : Pool τ ρ) where
  permits := by simp [fresh, Semaphore.granted, Pool.holders, Phase.isHolding]
  waiting_iff t := by simp [fresh]
  nodup := List.nodup_nil
  awake _ w hw := absurd hw List.not_mem_nil

/-- What the invariant asks of one task, with the waiters of the others as they were. -/
theorem waiting_iff_put (h : Fair capacity p) {t : τ} {phase : Phase ρ} {semaphore : Semaphore τ}
    (hself : phase = .waiting ↔ t ∈ semaphore.waiters.map (·.1))
    (hother : ∀ u, u ≠ t →
      (u ∈ semaphore.waiters.map (·.1) ↔ u ∈ p.semaphore.waiters.map (·.1))) (u : τ) :
    (p.put t phase semaphore).phase u = .waiting ↔ u ∈ semaphore.waiters.map (·.1) := by
  by_cases hu : u = t
  · subst hu
    rw [show (p.put u phase semaphore).phase u = phase from Function.update_self ..]
    exact hself
  · rw [show (p.put t phase semaphore).phase u = p.phase u from Function.update_of_ne hu ..,
      hother u hu]
    exact h.waiting_iff u

omit [DecidableEq τ] in
theorem Fair.notMem_waiters (h : Fair capacity p) {t : τ} (ht : p.phase t ≠ .waiting) :
    t ∉ p.semaphore.waiters.map (·.1) :=
  fun hmem => ht ((h.waiting_iff t).mpr hmem)

/-- A newcomer gets a permit, or queues up behind everybody else. -/
theorem Fair.start (h : Fair capacity p) {t : τ} (ht : p.phase t = .created) :
    Fair capacity (turn result p (.start t)) := by
  have hnot := h.notMem_waiters (by rw [ht]; nofun)
  have hpermits := h.permits
  unfold turn
  simp only [ht]
  split
  · rename_i hlocked
    let semaphore : Semaphore τ :=
      { p.semaphore with waiters := p.semaphore.waiters ++ [(t, false)] }
    have hgranted : Semaphore.granted semaphore.waiters =
        Semaphore.granted p.semaphore.waiters := by simp [Semaphore.granted, semaphore]
    have htasks : semaphore.waiters.map (·.1) = p.semaphore.waiters.map (·.1) ++ [t] := by
      simp [semaphore]
    have hcard : (p.put t .waiting semaphore).holders.card = p.holders.card := by
      simpa [ht, Phase.isHolding] using card_holders_put (p := p) t .waiting semaphore
    refine ⟨?_, ?_, ?_, ?_⟩
    · show p.semaphore.value + Semaphore.granted semaphore.waiters +
        (p.put t .waiting semaphore).holders.card = capacity
      rw [hgranted, hcard, hpermits]
    · exact waiting_iff_put h (by simp) fun u hu => by simp [hu]
    · show (semaphore.waiters.map (·.1)).Nodup
      rw [htasks]
      refine List.nodup_append.mpr ⟨h.nodup, List.nodup_singleton _, fun u hu v hv he => hnot ?_⟩
      rw [← List.mem_singleton.mp hv, ← he]
      exact hu
    · intro hvalue w hw
      show 0 < Semaphore.granted semaphore.waiters
      rw [hgranted]
      -- the counter is positive, so it was another waiter that locked it
      have hvalue : 0 < p.semaphore.value := hvalue
      unfold Semaphore.locked at hlocked
      cases hwaiters : p.semaphore.waiters with
      | nil =>
        rw [hwaiters] at hlocked
        simp at hlocked
        omega
      | cons w' rest =>
        rw [← hwaiters]
        exact h.awake hvalue w' (by rw [hwaiters]; exact List.mem_cons_self)
  · rename_i hlocked
    obtain ⟨hvalue, hempty⟩ : p.semaphore.value ≠ 0 ∧ p.semaphore.waiters = [] := by
      unfold Semaphore.locked at hlocked
      simpa using hlocked
    let semaphore : Semaphore τ := { p.semaphore with value := p.semaphore.value - 1 }
    have hcard : (p.put t .holding semaphore).holders.card = p.holders.card + 1 := by
      simpa [ht, Phase.isHolding] using card_holders_put (p := p) t .holding semaphore
    refine ⟨?_, ?_, h.nodup, ?_⟩
    · show p.semaphore.value - 1 + Semaphore.granted p.semaphore.waiters +
        (p.put t .holding semaphore).holders.card = capacity
      omega
    · exact waiting_iff_put h (by simpa using hnot) fun u _ => Iff.rfl
    · intro _ w hw
      have hw : w ∈ p.semaphore.waiters := hw
      rw [hempty] at hw
      exact absurd hw List.not_mem_nil

/-- A task whose future is done takes its permit, and hands on what the counter has. -/
theorem Fair.resume (h : Fair capacity p) {t : τ} (ht : p.phase t = .waiting)
    (hgrant : (t, true) ∈ p.semaphore.waiters) :
    Fair capacity (turn result p (.resume t)) := by
  have hpermits := h.permits
  have hleft := Semaphore.granted_filter h.nodup hgrant
  obtain ⟨htasks, hsum, hend⟩ :=
    Semaphore.wakeUp_spec p.semaphore.value (p.semaphore.waiters.filter (·.1 ≠ t))
  have hcard : (p.put t .holding (p.semaphore.leave t)).holders.card = p.holders.card + 1 := by
    simpa [ht, Phase.isHolding] using
      card_holders_put (p := p) t .holding (p.semaphore.leave t)
  unfold turn
  simp only [ht, if_pos hgrant]
  refine ⟨?_, ?_, ?_, ?_⟩
  · show (p.semaphore.leave t).value + Semaphore.granted (p.semaphore.leave t).waiters +
      (p.put t .holding (p.semaphore.leave t)).holders.card = capacity
    unfold Semaphore.leave at hcard ⊢
    omega
  · refine waiting_iff_put h ?_ fun u hu => ?_
    · unfold Semaphore.leave
      rw [htasks]
      simp
    · unfold Semaphore.leave
      rw [htasks]
      simp [hu]
  · show ((p.semaphore.leave t).waiters.map (·.1)).Nodup
    unfold Semaphore.leave
    rw [htasks]
    exact h.nodup.sublist (List.filter_sublist.map _)
  · intro hvalue w hw
    rcases hend with hzero | hall
    · have hvalue : 0 < (p.semaphore.leave t).value := hvalue
      unfold Semaphore.leave at hvalue
      omega
    · exact List.countP_pos_iff.mpr ⟨w, hw, hall w hw⟩

/-- A task that leaves its block gives its permit to the first waiter, or back to the counter. -/
theorem Fair.finish (h : Fair capacity p) {t : τ} (ht : p.phase t = .holding) :
    Fair capacity (turn result p (.finish t)) := by
  have hpermits := h.permits
  have hcard : ∀ semaphore : Semaphore τ,
      (p.put t (.done (result t)) semaphore).holders.card + 1 = p.holders.card := by
    intro semaphore
    simpa [ht, Phase.isHolding] using card_holders_put (p := p) t (.done (result t)) semaphore
  have hnot := h.notMem_waiters (by rw [ht]; nofun)
  unfold turn
  simp only [ht]
  cases hc : Semaphore.complete p.semaphore.waiters with
  | none =>
    rw [show p.semaphore.release = ⟨p.semaphore.value + 1, p.semaphore.waiters⟩ by
      simp only [Semaphore.release, hc]]
    have hcard := hcard ⟨p.semaphore.value + 1, p.semaphore.waiters⟩
    refine ⟨?_, ?_, h.nodup, fun _ w hw => ?_⟩
    · show p.semaphore.value + 1 + Semaphore.granted p.semaphore.waiters + _ = capacity
      omega
    · exact waiting_iff_put h (by simpa using hnot) fun u _ => Iff.rfl
    · exact List.countP_pos_iff.mpr ⟨w, hw, Semaphore.complete_none hc w hw⟩
  | some waiters =>
    rw [show p.semaphore.release = ⟨p.semaphore.value, waiters⟩ by
      simp only [Semaphore.release, hc]]
    obtain ⟨htasks, hgranted⟩ := Semaphore.complete_some hc
    have hcard := hcard ⟨p.semaphore.value, waiters⟩
    refine ⟨?_, ?_, ?_, fun _ w hw => ?_⟩
    · show p.semaphore.value + Semaphore.granted waiters + _ = capacity
      omega
    · exact waiting_iff_put h (by simpa [htasks] using hnot) fun u _ => by rw [htasks]
    · show (waiters.map (·.1)).Nodup
      rw [htasks]
      exact h.nodup
    · show 0 < Semaphore.granted waiters
      omega

/-- **Step lemma.** -/
theorem fair_turn (h : Fair capacity p) (event : Turn τ) : Fair capacity (turn result p event) := by
  cases event with
  | start t =>
    cases ht : p.phase t with
    | created => exact h.start ht
    | _ =>
      unfold turn
      simp only [ht]
      exact h
  | resume t =>
    cases ht : p.phase t with
    | waiting =>
      by_cases hgrant : (t, true) ∈ p.semaphore.waiters
      · exact h.resume ht hgrant
      · unfold turn
        simp only [ht, if_neg hgrant]
        exact h
    | _ =>
      unfold turn
      simp only [ht]
      exact h
  | finish t =>
    cases ht : p.phase t with
    | holding => exact h.finish ht
    | _ =>
      unfold turn
      simp only [ht]
      exact h

/-! ## What the invariant gives -/

omit [DecidableEq τ] in
/-- Never more tasks in their block than permits. -/
theorem Fair.holding_le (h : Fair capacity p) : p.holders.card ≤ capacity := by
  have := h.permits
  omega

omit [DecidableEq τ] in
/-- **No task is forgotten.**  While a task is not done, the event loop has a turn to give. -/
theorem Fair.progress (h : Fair capacity p) (hcapacity : 0 < capacity) {t : τ}
    (ht : (p.phase t).isDone = false) : ∃ event, Enabled p event := by
  cases hphase : p.phase t with
  | created => exact ⟨.start t, hphase⟩
  | holding => exact ⟨.finish t, hphase⟩
  | done r =>
    rw [hphase] at ht
    cases ht
  | waiting =>
    have hpermits := h.permits
    have hmem := (h.waiting_iff t).mp hphase
    obtain ⟨w, hw, -⟩ := List.mem_map.mp hmem
    by_cases hgranted : 0 < Semaphore.granted p.semaphore.waiters
    · obtain ⟨u, hu⟩ := Semaphore.exists_granted hgranted
      exact ⟨.resume u, (h.waiting_iff u).mpr (List.mem_map.mpr ⟨_, hu, rfl⟩), hu⟩
    · -- nobody is about to be woken, so all permits are in blocks
      have hvalue : ¬ 0 < p.semaphore.value := fun hv => hgranted (h.awake hv w hw)
      have hholders : 0 < p.holders.card := by omega
      obtain ⟨u, hu⟩ := Finset.card_pos.mp hholders
      refine ⟨.finish u, ?_⟩
      have hholding := mem_holders.mp hu
      show p.phase u = .holding
      cases hu' : p.phase u with
      | holding => rfl
      | _ =>
        rw [hu'] at hholding
        cases hholding

/-- How many turns all tasks together still need. -/
def Pool.turns (p : Pool τ ρ) : ℕ := ∑ t, (p.phase t).turns

theorem turns_put {t : τ} {phase : Phase ρ} {semaphore : Semaphore τ}
    (h : phase.turns < (p.phase t).turns) : (p.put t phase semaphore).turns < p.turns := by
  have hself : (p.put t phase semaphore).phase t = phase := Function.update_self ..
  refine Finset.sum_lt_sum (fun u _ => ?_) ⟨t, Finset.mem_univ t, by rw [hself]; exact h⟩
  by_cases hu : u = t
  · subst hu
    rw [hself]
    exact le_of_lt h
  · rw [show (p.put t phase semaphore).phase u = p.phase u from Function.update_of_ne hu ..]

theorem turns_turn {event : Turn τ} (h : Enabled p event) :
    (turn result p event).turns < p.turns := by
  cases event with
  | start t =>
    have ht : p.phase t = .created := h
    unfold turn
    simp only [ht]
    split
    · exact turns_put (by rw [ht]; simp [Phase.turns])
    · exact turns_put (by rw [ht]; simp [Phase.turns])
  | resume t =>
    obtain ⟨ht, hgrant⟩ := h
    unfold turn
    simp only [ht, if_pos hgrant]
    exact turns_put (by rw [ht]; simp [Phase.turns])
  | finish t =>
    have ht : p.phase t = .holding := h
    unfold turn
    simp only [ht]
    exact turns_put (by rw [ht]; exact Nat.zero_lt_one)

omit [DecidableEq τ] in
theorem turns_fresh (capacity : ℕ) :
    (fresh capacity : Pool τ ρ).turns = 3 * Fintype.card τ := by
  simp [Pool.turns, fresh, Phase.turns, Nat.mul_comm, Finset.card_univ]

end

end AEControl.Semaphores
