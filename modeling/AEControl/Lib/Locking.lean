/-
  Transactions under row locks, at READ COMMITTED.

  A call runs statement by statement.  A statement sees the latest committed database with the
  writes of its own transaction on top.  It waits while another transaction holds a lock it wants,
  keeps its locks to the end of the transaction, and adds to the transaction's writes, which the
  database gets at commit.  Any number of transactions are in flight, and the events of a run say
  whose statement comes next: every list of events is an interleaving.

  The rule is rely–guarantee (`Discipline.invariant_run`): what a transaction has prepared is stable
  under the writes of the others as long as these touch nothing it has locked.
-/
import Mathlib.Logic.Function.Basic
import AEControl.Lib.Runs

namespace AEControl.Locking

/-- What a statement does when it is executed. -/
inductive Statement (Session Write Lock Ret : Type*) where
  /-- It takes locks, writes, and the call goes on. -/
  | proceed (locks : List Lock) (writes : List Write) (session : Session)
  /-- The call ends and its transaction is rolled back. -/
  | rollback (outcome : Ret)
  /-- The call ends and its transaction is committed. -/
  | commit (outcome : Ret)

/-- A set of calls: where they start, what a write does, what the next statement of a call does. -/
structure Protocol (Db Call Session Write Lock Clock Ret : Type*) where
  start : Call → Session
  apply : Db → Write → Db
  execute : Session → Db → Clock → Statement Session Write Lock Ret

/-- A transaction in flight. -/
structure Txn (Session Write : Type*) where
  session : Session
  writes : List Write

structure State (Db Session Write Lock : Type*) where
  committed : Db
  inflight : ℕ → Option (Txn Session Write)
  holder : Lock → Option ℕ

inductive Event (Call Clock : Type*) where
  | call (id : ℕ) (call : Call)
  /-- The next statement of a transaction. -/
  | advance (id : ℕ) (clock : Clock)
  /-- The transaction is lost: its connection fails or a deadlock is resolved against it. -/
  | abort (id : ℕ)

variable {Db Call Session Write Lock Clock Ret : Type*}

namespace State

/-- Nothing is in flight. -/
def idle (db : Db) : State Db Session Write Lock := ⟨db, fun _ => none, fun _ => none⟩

/-- A transaction holds a lock. -/
def Holds (s : State Db Session Write Lock) (id : ℕ) (l : Lock) : Prop := s.holder l = some id

/-- No other transaction holds the lock. -/
def free (s : State Db Session Write Lock) (id : ℕ) (l : Lock) : Bool :=
  (s.holder l).all (· = id)

/-- A transaction ends and leaves the database as `db`. -/
def finish (s : State Db Session Write Lock) (id : ℕ) (db : Db) : State Db Session Write Lock where
  committed := db
  inflight := Function.update s.inflight id none
  holder := fun l => if s.holder l = some id then none else s.holder l

/-- A statement succeeds: the transaction takes its locks and goes on as `txn`. -/
def acquire [DecidableEq Lock] (s : State Db Session Write Lock) (id : ℕ) (locks : List Lock)
    (txn : Txn Session Write) : State Db Session Write Lock where
  committed := s.committed
  inflight := Function.update s.inflight id (some txn)
  holder := fun l => if l ∈ locks then some id else s.holder l

end State

/-- An entry of an updated map is the new one or an old one. -/
theorem update_some {α : Type*} {f : ℕ → Option α} {id id' : ℕ} {new : Option α} {a : α}
    (h : Function.update f id new id' = some a) :
    (id' = id ∧ new = some a) ∨ (id' ≠ id ∧ f id' = some a) := by
  by_cases hne : id' = id
  · subst hne
    rw [Function.update_self] at h
    exact Or.inl ⟨rfl, h⟩
  · rw [Function.update_of_ne hne] at h
    exact Or.inr ⟨hne, h⟩

variable (P : Protocol Db Call Session Write Lock Clock Ret)

/-- The database as a transaction sees it. -/
def Protocol.view (db : Db) (writes : List Write) : Db := writes.foldl P.apply db

/-- What the next statement of a transaction does. -/
def Protocol.next (s : State Db Session Write Lock) (txn : Txn Session Write) (clock : Clock) :
    Statement Session Write Lock Ret :=
  P.execute txn.session (P.view s.committed txn.writes) clock

variable [DecidableEq Lock]

/-- One event.  A statement that has to wait changes nothing; it is tried again later. -/
def step (s : State Db Session Write Lock) : Event Call Clock → State Db Session Write Lock
  | .call id c =>
    match s.inflight id with
    | some _ => s
    | none => { s with inflight := Function.update s.inflight id (some ⟨P.start c, []⟩) }
  | .advance id clock =>
    match s.inflight id with
    | none => s
    | some txn =>
      match P.next s txn clock with
      | .proceed locks writes session =>
        if locks.all (s.free id) then s.acquire id locks ⟨session, txn.writes ++ writes⟩ else s
      | .rollback _ => s.finish id s.committed
      | .commit _ => s.finish id (P.view s.committed txn.writes)
  | .abort id => s.finish id s.committed

/-- What a call answers in an event, if it ends there. -/
def response (s : State Db Session Write Lock) : Event Call Clock → Option Ret
  | .advance id clock =>
    match s.inflight id with
    | none => none
    | some txn =>
      match P.next s txn clock with
      | .proceed .. => none
      | .rollback outcome => some outcome
      | .commit outcome => some outcome
  | .call .. => none
  | .abort _ => none

/-! ## What one event can do -/

/-- The ways an event changes the state. -/
inductive Change (s s' : State Db Session Write Lock) (answer : Option Ret) : Prop where
  | idle (hs : s' = s)
  | started (id : ℕ) (c : Call) (hid : s.inflight id = none)
      (hs : s' = { s with inflight := Function.update s.inflight id (some ⟨P.start c, []⟩) })
  | proceeded (id : ℕ) (txn : Txn Session Write) (clock : Clock) (locks : List Lock)
      (writes : List Write) (session : Session) (hid : s.inflight id = some txn)
      (hnext : P.next s txn clock = .proceed locks writes session)
      (hfree : ∀ l ∈ locks, s.free id l = true)
      (hs : s' = s.acquire id locks ⟨session, txn.writes ++ writes⟩)
  | dropped (id : ℕ) (hs : s' = s.finish id s.committed)
  | committed (id : ℕ) (txn : Txn Session Write) (clock : Clock) (outcome : Ret)
      (hid : s.inflight id = some txn) (hnext : P.next s txn clock = .commit outcome)
      (hanswer : answer = some outcome) (hs : s' = s.finish id (P.view s.committed txn.writes))

theorem step_change (s : State Db Session Write Lock) (event : Event Call Clock) :
    Change P s (step P s event) (response P s event) := by
  cases event with
  | call id c =>
    cases hid : s.inflight id with
    | some txn => exact .idle (by simp only [step, hid])
    | none => exact .started id c hid (by simp only [step, hid])
  | abort id => exact .dropped id rfl
  | advance id clock =>
    cases hid : s.inflight id with
    | none => exact .idle (by simp only [step, hid])
    | some txn =>
      cases hnext : P.next s txn clock with
      | rollback outcome => exact .dropped id (by simp only [step, hid, hnext])
      | commit outcome =>
        exact .committed id txn clock outcome hid hnext (by simp only [response, hid, hnext])
          (by simp only [step, hid, hnext])
      | proceed locks writes session =>
        by_cases hfree : locks.all (s.free id) = true
        · exact .proceeded id txn clock locks writes session hid hnext (List.all_eq_true.mp hfree)
            (by simp only [step, hid, hnext, if_pos hfree])
        · refine .idle ?_
          simp only [step, hid, hnext]
          exact if_neg hfree

/-- The ways a transaction's turn ends. -/
inductive Turn (s s' : State Db Session Write Lock) (id : ℕ) (txn : Txn Session Write)
    (clock : Clock) : Prop where
  | waits (locks : List Lock) (writes : List Write) (session : Session)
      (hnext : P.next s txn clock = .proceed locks writes session)
      (hwaits : ∃ l ∈ locks, s.free id l = false) (hs : s' = s)
  | proceeds (locks : List Lock) (writes : List Write) (session : Session)
      (hnext : P.next s txn clock = .proceed locks writes session)
      (hs : s' = s.acquire id locks ⟨session, txn.writes ++ writes⟩)
  | rollsBack (outcome : Ret) (hnext : P.next s txn clock = .rollback outcome)
      (hs : s' = s.finish id s.committed)
  | commits (outcome : Ret) (hnext : P.next s txn clock = .commit outcome)
      (hs : s' = s.finish id (P.view s.committed txn.writes))

theorem advance_turn {s : State Db Session Write Lock} {id : ℕ} {txn : Txn Session Write}
    (hid : s.inflight id = some txn) (clock : Clock) :
    Turn P s (step P s (.advance id clock)) id txn clock := by
  cases hnext : P.next s txn clock with
  | rollback outcome => exact .rollsBack outcome hnext (by simp only [step, hid, hnext])
  | commit outcome => exact .commits outcome hnext (by simp only [step, hid, hnext])
  | proceed locks writes session =>
    cases hfree : locks.all (s.free id) with
    | true =>
      refine .proceeds locks writes session hnext ?_
      simp only [step, hid, hnext, hfree, if_true]
    | false =>
      refine .waits locks writes session hnext ?_ ?_
      · obtain ⟨l, hl, hlocked⟩ := List.all_eq_false.mp hfree
        exact ⟨l, hl, eq_false_of_ne_true hlocked⟩
      · simp only [step, hid, hnext, hfree, Bool.false_eq_true, if_false]

/-- A statement of one transaction leaves the others where they are. -/
theorem inflight_of_ne {s : State Db Session Write Lock} {id id' : ℕ} (hne : id' ≠ id)
    (clock : Clock) : (step P s (.advance id' clock)).inflight id = s.inflight id := by
  cases hid' : s.inflight id' with
  | none => simp only [step, hid']
  | some txn =>
    cases advance_turn P hid' clock with
    | waits locks writes session hnext hwaits hs => rw [hs]
    | proceeds locks writes session hnext hs =>
      rw [hs]
      exact Function.update_of_ne (Ne.symm hne) _ _
    | rollsBack outcome hnext hs =>
      rw [hs]
      exact Function.update_of_ne (Ne.symm hne) _ _
    | commits outcome hnext hs =>
      rw [hs]
      exact Function.update_of_ne (Ne.symm hne) _ _

/-- A transaction that is in flight after a statement of its own has gone on, or waits. -/
theorem proceeds_of_inflight {s : State Db Session Write Lock} {id : ℕ} {clock : Clock}
    {txn : Txn Session Write} (h : (step P s (.advance id clock)).inflight id = some txn) :
    (step P s (.advance id clock) = s ∧ ∃ locks writes session,
        P.next s txn clock = .proceed locks writes session) ∨
      ∃ txn' locks writes, s.inflight id = some txn' ∧
        P.next s txn' clock = .proceed locks writes txn.session ∧
        step P s (.advance id clock) = s.acquire id locks txn := by
  cases hid : s.inflight id with
  | none =>
    simp only [step, hid] at h
    cases h
  | some txn' =>
    cases advance_turn P hid clock with
    | waits locks writes session hnext hwaits hs =>
      rw [hs] at h ⊢
      obtain rfl := Option.some.inj (hid.symm.trans h)
      exact Or.inl ⟨rfl, locks, writes, session, hnext⟩
    | proceeds locks writes session hnext hs =>
      rw [hs] at h ⊢
      rcases update_some h with ⟨-, hnew⟩ | ⟨hne, -⟩
      · obtain rfl := Option.some.inj hnew
        exact Or.inr ⟨txn', locks, writes, rfl, hnext, rfl⟩
      · exact absurd rfl hne
    | rollsBack outcome hnext hs =>
      rw [hs] at h
      rcases update_some h with ⟨-, hnone⟩ | ⟨hne, -⟩
      · cases hnone
      · exact absurd rfl hne
    | commits outcome hnext hs =>
      rw [hs] at h
      rcases update_some h with ⟨-, hnone⟩ | ⟨hne, -⟩
      · cases hnone
      · exact absurd rfl hne

/-- **Only a commit changes the database**, and a commit answers its call. -/
theorem committed_step (s : State Db Session Write Lock) (event : Event Call Clock) :
    (step P s event).committed = s.committed ∨
      ∃ id txn clock outcome, s.inflight id = some txn ∧
        P.next s txn clock = .commit outcome ∧ response P s event = some outcome ∧
        (step P s event).committed = P.view s.committed txn.writes := by
  cases step_change P s event with
  | idle hs => exact Or.inl (by rw [hs])
  | started id c hid hs => exact Or.inl (by rw [hs])
  | proceeded id txn clock locks writes session hid hnext hfree hs =>
    exact Or.inl (by rw [hs]; rfl)
  | dropped id hs => exact Or.inl (by rw [hs]; rfl)
  | committed id txn clock outcome hid hnext hanswer hs =>
    exact Or.inr ⟨id, txn, clock, outcome, hid, hnext, hanswer, by rw [hs]; rfl⟩

/-! ## A call by itself -/

omit [DecidableEq Lock] in
/-- A call that runs without interruption, for at most `n` statements: its answer and the database
    it leaves. -/
def Protocol.solo (clock : Clock) (db : Db) : ℕ → Session → List Write → Option (Ret × Db)
  | 0, _, _ => none
  | n + 1, session, writes =>
    match P.execute session (P.view db writes) clock with
    | .proceed _ writes' session' => Protocol.solo clock db n session' (writes ++ writes')
    | .rollback outcome => some (outcome, db)
    | .commit outcome => some (outcome, P.view db writes)

section Solo

omit [DecidableEq Lock]

variable {P} {clock : Clock} {db : Db} {n : ℕ} {session : Session} {writes : List Write}

theorem solo_proceed {locks : List Lock} {writes' : List Write} {session' : Session}
    (h : P.execute session (P.view db writes) clock = .proceed locks writes' session') :
    P.solo clock db (n + 1) session writes = P.solo clock db n session' (writes ++ writes') := by
  simp only [Protocol.solo, h]

theorem solo_rollback {outcome : Ret}
    (h : P.execute session (P.view db writes) clock = .rollback outcome) :
    P.solo clock db (n + 1) session writes = some (outcome, db) := by
  simp only [Protocol.solo, h]

theorem solo_commit {outcome : Ret}
    (h : P.execute session (P.view db writes) clock = .commit outcome) :
    P.solo clock db (n + 1) session writes = some (outcome, P.view db writes) := by
  simp only [Protocol.solo, h]

end Solo

/-- The state in which one transaction is in flight, and every lock is its own or free. -/
structure Alone (s : State Db Session Write Lock) (id : ℕ) (db : Db) (txn : Txn Session Write) :
    Prop where
  committed : s.committed = db
  inflight : s.inflight = Function.update (fun _ => none) id (some txn)
  holder : ∀ l, s.holder l = none ∨ s.holder l = some id

omit [DecidableEq Lock] in
theorem Alone.finish {s : State Db Session Write Lock} {id : ℕ} {db : Db}
    {txn : Txn Session Write} (h : Alone s id db txn) (db' : Db) : s.finish id db' = .idle db' := by
  have hinflight : Function.update s.inflight id none = fun _ => none := by
    rw [h.inflight, Function.update_idem, Function.update_eq_self_iff]
  have hholder : (fun l => if s.holder l = some id then none else s.holder l) =
      fun _ => (none : Option ℕ) := by
    funext l
    rcases h.holder l with hl | hl
    · simp [hl]
    · simp [hl]
  unfold State.finish State.idle
  rw [hinflight, hholder]

/-- A call whose transaction is the only one goes through without a wait. -/
theorem solo_run {s : State Db Session Write Lock} {id : ℕ} {clock : Clock} {db db' : Db}
    {answer : Ret} {n : ℕ} {session : Session} {writes : List Write}
    (h : Alone s id db ⟨session, writes⟩)
    (hsolo : P.solo clock db n session writes = some (answer, db')) :
    Runs.run (step P) s (List.replicate n (.advance id clock)) = .idle db' := by
  -- after the end of the call its events find nothing in flight
  have hidle : ∀ (db : Db) (n : ℕ), Runs.run (step P) (.idle db)
      (List.replicate n (.advance id clock)) = .idle db := by
    intro db n
    induction n with
    | zero => rfl
    | succ n ih => exact ih
  induction n generalizing s session writes with
  | zero => cases hsolo
  | succ n ih =>
    have hid : s.inflight id = some ⟨session, writes⟩ := by
      rw [h.inflight, Function.update_self]
    have hview : P.next s ⟨session, writes⟩ clock = P.execute session (P.view db writes) clock := by
      unfold Protocol.next
      rw [h.committed]
    rw [List.replicate_succ, Runs.run_cons]
    simp only [Protocol.solo, ← hview] at hsolo
    cases advance_turn P hid clock with
    | waits locks writes' session' hnext hwaits hs =>
      obtain ⟨l, -, hlocked⟩ := hwaits
      unfold State.free at hlocked
      rcases h.holder l with hl | hl
      · rw [hl] at hlocked
        cases hlocked
      · rw [hl] at hlocked
        simp at hlocked
    | proceeds locks writes' session' hnext hs =>
      rw [hnext] at hsolo
      rw [hs]
      refine ih ⟨h.committed, ?_, fun l => ?_⟩ hsolo
      · show Function.update s.inflight id _ = _
        rw [h.inflight, Function.update_idem]
      · by_cases hl : l ∈ locks
        · exact Or.inr (if_pos hl)
        · rcases h.holder l with hfree | hown
          · exact Or.inl ((if_neg hl).trans hfree)
          · exact Or.inr ((if_neg hl).trans hown)
    | rollsBack outcome hnext hs =>
      rw [hnext] at hsolo
      obtain ⟨-, rfl⟩ := Prod.mk.inj (Option.some.inj hsolo)
      rw [hs, h.finish, h.committed]
      exact hidle _ n
    | commits outcome hnext hs =>
      rw [hnext] at hsolo
      obtain ⟨-, rfl⟩ := Prod.mk.inj (Option.some.inj hsolo)
      rw [hs, h.finish, h.committed]
      exact hidle _ n

/-- From an idle database, a call that runs alone leaves it idle. -/
theorem call_run {id : ℕ} {clock : Clock} {db db' : Db} {answer : Ret} {n : ℕ} {c : Call}
    (hsolo : P.solo clock db n (P.start c) [] = some (answer, db')) :
    Runs.run (step P) (.idle db : State Db Session Write Lock)
      (.call id c :: List.replicate n (.advance id clock)) = .idle db' := by
  rw [Runs.run_cons]
  exact solo_run P ⟨rfl, rfl, fun _ => Or.inl rfl⟩ hsolo

/-! ## Rely and guarantee -/

/-- A locking discipline: an invariant of the database, the locks a write needs, what the holder of
    some locks may rely on while others commit, and what a transaction has established so far. -/
structure Discipline where
  Good : Db → Prop
  touches : Write → List Lock
  Rely : (Lock → Prop) → Db → Db → Prop
  Prepared : Db → (Lock → Prop) → Session → List Write → Prop
  start : ∀ db held c, Prepared db held (P.start c) []
  mono : ∀ {db : Db} {held held' : Lock → Prop} {session : Session} {writes : List Write},
    (∀ l, held l → held' l) → Prepared db held session writes → Prepared db held' session writes
  /-- A statement prepares the next one, and its writes touch what is locked by then. -/
  proceed : ∀ {db : Db} {held : Lock → Prop} {session session' : Session} {locks : List Lock}
    {writes writes' : List Write} {clock : Clock}, Good db → Prepared db held session writes →
    P.execute session (P.view db writes) clock = .proceed locks writes' session' →
    (∀ l ∈ locks, held l) →
    Prepared db held session' (writes ++ writes') ∧ ∀ w ∈ writes', ∀ l ∈ touches w, held l
  commit : ∀ {db : Db} {held : Lock → Prop} {session : Session} {writes : List Write}
    {clock : Clock} {outcome : Ret}, Good db → Prepared db held session writes →
    P.execute session (P.view db writes) clock = .commit outcome → Good (P.view db writes)
  rely_refl : ∀ held db, Rely held db db
  rely_trans : ∀ {held : Lock → Prop} {db db' db'' : Db},
    Rely held db db' → Rely held db' db'' → Rely held db db''
  /-- A write that touches no held lock is one its holder can rely on. -/
  rely_write : ∀ {held : Lock → Prop} {db : Db} {w : Write},
    (∀ l ∈ touches w, ¬held l) → Rely held db (P.apply db w)
  stable : ∀ {db db' : Db} {held : Lock → Prop} {session : Session} {writes : List Write},
    Rely held db db' → Prepared db held session writes → Prepared db' held session writes

namespace Discipline

variable {P} (D : Discipline P)

/-- What holds between any two events. -/
structure Invariant (s : State Db Session Write Lock) : Prop where
  good : D.Good s.committed
  prepared : ∀ id txn, s.inflight id = some txn →
    D.Prepared s.committed (s.Holds id) txn.session txn.writes
  covered : ∀ id txn, s.inflight id = some txn → ∀ w ∈ txn.writes, ∀ l ∈ D.touches w, s.Holds id l

section

omit [DecidableEq Lock]

theorem Invariant.idle {db : Db} (h : D.Good db) : D.Invariant (.idle db) where
  good := h
  prepared := fun _ _ hid => by cases hid
  covered := fun _ _ hid => by cases hid

variable {D}

/-- The others can rely on what a transaction commits. -/
theorem rely_view {held : Lock → Prop} {db : Db} {writes : List Write}
    (h : ∀ w ∈ writes, ∀ l ∈ D.touches w, ¬held l) : D.Rely held db (P.view db writes) := by
  induction writes generalizing db with
  | nil => exact D.rely_refl held db
  | cons w writes ih =>
    exact D.rely_trans (D.rely_write (h w List.mem_cons_self))
      (ih fun v hv => h v (List.mem_cons_of_mem w hv))

/-- Locks of other transactions survive the end of one. -/
theorem holds_finish {s : State Db Session Write Lock} {id id' : ℕ} {db : Db} (hne : id' ≠ id)
    {l : Lock} : (s.finish id db).Holds id' l ↔ s.Holds id' l := by
  unfold State.Holds State.finish
  by_cases hl : s.holder l = some id
  · simp [hl, hne.symm]
  · simp [hl]

/-- The end of a transaction keeps the invariant if the others can rely on the new database. -/
theorem Invariant.finish {s : State Db Session Write Lock} (hinv : D.Invariant s) {id : ℕ} {db : Db}
    (hgood : D.Good db) (hrely : ∀ id', id' ≠ id → D.Rely (s.Holds id') s.committed db) :
    D.Invariant (s.finish id db) := by
  have hother : ∀ id' txn, (s.finish id db).inflight id' = some txn →
      id' ≠ id ∧ s.inflight id' = some txn := by
    intro id' txn hid'
    rcases update_some hid' with ⟨-, hnone⟩ | hother
    · cases hnone
    · exact hother
  refine ⟨hgood, ?_, ?_⟩
  · intro id' txn hid'
    obtain ⟨hne, hid'⟩ := hother id' txn hid'
    exact D.mono (fun l => (holds_finish hne).mpr)
      (D.stable (hrely id' hne) (hinv.prepared id' txn hid'))
  · intro id' txn hid' w hw l hl
    obtain ⟨hne, hid'⟩ := hother id' txn hid'
    exact (holds_finish hne).mpr (hinv.covered id' txn hid' w hw l hl)

end

variable {D}

/-- A statement that proceeds keeps the invariant. -/
theorem Invariant.acquire {s : State Db Session Write Lock} (hinv : D.Invariant s) {id : ℕ}
    {txn : Txn Session Write} {clock : Clock} {locks : List Lock} {writes : List Write}
    {session : Session} (hid : s.inflight id = some txn)
    (hnext : P.next s txn clock = .proceed locks writes session)
    (hfree : ∀ l ∈ locks, s.free id l = true) :
    D.Invariant (s.acquire id locks ⟨session, txn.writes ++ writes⟩) := by
  set s' := s.acquire id locks ⟨session, txn.writes ++ writes⟩
  have hown : ∀ l, s.Holds id l → s'.Holds id l := fun l hl => by
    by_cases hmem : l ∈ locks
    · exact if_pos hmem
    · exact (if_neg hmem).trans hl
  -- a lock of another transaction is not free
  have hother : ∀ id', id' ≠ id → ∀ l, s.Holds id' l → s'.Holds id' l := fun id' hne l hl => by
    by_cases hmem : l ∈ locks
    · have := hfree l hmem
      unfold State.free at this
      rw [show s.holder l = some id' from hl] at this
      exact absurd (by simpa using this) hne
    · exact (if_neg hmem).trans hl
  have hlocks : ∀ l ∈ locks, s'.Holds id l := fun l hl => if_pos hl
  obtain ⟨hprepared, htouched⟩ := D.proceed hinv.good (D.mono hown (hinv.prepared id txn hid)) hnext
    hlocks
  refine ⟨hinv.good, ?_, ?_⟩
  · intro id' txn' hid'
    rcases update_some hid' with ⟨rfl, htxn⟩ | ⟨hne, hid'⟩
    · obtain rfl := Option.some.inj htxn
      exact hprepared
    · exact D.mono (hother id' hne) (hinv.prepared id' txn' hid')
  · intro id' txn' hid' w hw l hl
    rcases update_some hid' with ⟨rfl, htxn⟩ | ⟨hne, hid'⟩
    · obtain rfl := Option.some.inj htxn
      rcases List.mem_append.mp hw with hw | hw
      · exact hown l (hinv.covered id' txn hid w hw l hl)
      · exact htouched w hw l hl
    · exact hother id' hne l (hinv.covered id' txn' hid' w hw l hl)

/-- **Every event keeps the invariant.** -/
theorem Invariant.step {s : State Db Session Write Lock} (hinv : D.Invariant s)
    (event : Event Call Clock) : D.Invariant (Locking.step P s event) := by
  cases step_change P s event with
  | idle hs => rw [hs]; exact hinv
  | started id c hid hs =>
    rw [hs]
    refine ⟨hinv.good, ?_, ?_⟩
    · intro id' txn hid'
      rcases update_some hid' with ⟨rfl, htxn⟩ | ⟨-, hid'⟩
      · obtain rfl := Option.some.inj htxn
        exact D.start _ _ c
      · exact hinv.prepared id' txn hid'
    · intro id' txn hid' w hw
      rcases update_some hid' with ⟨rfl, htxn⟩ | ⟨-, hid'⟩
      · obtain rfl := Option.some.inj htxn
        cases hw
      · exact hinv.covered id' txn hid' w hw
  | proceeded id txn clock locks writes session hid hnext hfree hs =>
    rw [hs]
    exact hinv.acquire hid hnext hfree
  | dropped id hs =>
    rw [hs]
    exact hinv.finish hinv.good fun _ _ => D.rely_refl _ _
  | committed id txn clock outcome hid hnext hanswer hs =>
    rw [hs]
    refine hinv.finish (D.commit hinv.good (hinv.prepared id txn hid) hnext) fun id' hne => ?_
    refine rely_view fun w hw l hl hheld => ?_
    -- a lock has one holder
    have hl : s.holder l = some id := hinv.covered id txn hid w hw l hl
    exact hne (Option.some.inj (hheld.symm.trans hl))

/-- **The invariant along every interleaving.** -/
theorem invariant_run {db : Db} (h : D.Good db) (events : List (Event Call Clock)) :
    D.Invariant (Runs.run (Locking.step P) (.idle db) events) :=
  Runs.run_invariant (Locking.step P) D.Invariant (fun _ event hinv => hinv.step event)
    (Invariant.idle D h) events

/-- A relation between databases that every commit keeps relates any two committed databases of a
    run. -/
theorem committed_later {R : Db → Db → Prop} (hrefl : ∀ db, R db db)
    (htrans : ∀ {db db' db''}, R db db' → R db' db'' → R db db'')
    (hcommit : ∀ {db held session writes clock outcome}, D.Good db →
      D.Prepared db held session writes →
      P.execute session (P.view db writes) clock = .commit outcome → R db (P.view db writes))
    {s : State Db Session Write Lock} (hinv : D.Invariant s) (events : List (Event Call Clock)) :
    R s.committed (Runs.run (Locking.step P) s events).committed := by
  have hstep : ∀ (s : State Db Session Write Lock) (event : Event Call Clock), D.Invariant s →
      R s.committed (Locking.step P s event).committed := by
    intro s event hinv
    rcases committed_step P s event with h | ⟨id, txn, clock, outcome, hid, hnext, -, h⟩
    · rw [h]
      exact hrefl _
    · rw [h]
      exact hcommit hinv.good (hinv.prepared id txn hid) hnext
  exact Runs.run_grows (R := fun s s' => R s.committed s'.committed) (Locking.step P) D.Invariant
    (fun s => hrefl s.committed) htrans (fun _ event hinv => hinv.step event) hstep hinv events

end Discipline

end AEControl.Locking
