/-
  What the traces of two runs have in common.

  A run reads one thing after the other; a read may raise, which ends the run, and what is read may
  be recorded.  Its trace is what it records, with one record for what it raises: `follow` is one
  read with the trace of the rest.  Two runs are compared read by read.

  1. **In step** — `Together shows same next` says of two reads that both raise or both return, and
     then that `next` holds of what they return.  With `same := False` this is all: the runs raise
     at the same reads and record at the same reads, whatever they record.  With `same := True`
     the records of what is raised agree too.  A comparison of two runs is thus a family
     `Prop → Prop`, written once; its value at `False` says that the runs are in step, its value at
     `True` that they record the same.

  2. **The traces decide** — `Decides M T T'` says what such a family has to do with the two traces:
     runs that record the same have equal traces, and equal traces of runs in step come of the same
     records.  The family for a run is put together as its trace is: one lemma for each way to go
     on (`Decides.follow`, `Decides.cons`, `Decides.items`).

  Without being in step the converse fails: one run may raise at its first read what another one
  raises at its second.
-/
import Mathlib.Data.List.Basic

namespace AEControl.Lockstep

variable {ε σ α β : Type*}

/-! ## Traces -/

/-- The trace of a run that reads `x` and goes on with `k`; `shows e` is the record of `e`. -/
def follow (shows : ε → σ) (x : Except ε α) (k : α → List σ) : List σ :=
  match x with
  | .ok v => k v
  | .error e => [shows e]

@[simp] theorem follow_ok (shows : ε → σ) (v : α) (k : α → List σ) :
    follow shows (.ok v) k = k v := rfl

@[simp] theorem follow_error (shows : ε → σ) (e : ε) (k : α → List σ) :
    follow shows (.error e) k = [shows e] := rfl

/-- The trace of a run that reads one item after the other, and then goes on. -/
def followItems {ι : Type*} (trace : ι → List σ → List σ) (items : List ι) (rest : List σ) :
    List σ :=
  items.foldr trace rest

/-! ## Comparisons -/

/-- Both computations raise or both return; then `next` holds of what they return.  If `same`, they
    raise what has one record. -/
def Together (shows : ε → σ) (same : Prop) (next : α → β → Prop) :
    Except ε α → Except ε β → Prop
  | .ok v, .ok w => next v w
  | .error e, .error e' => same → shows e = shows e'
  | _, _ => False

/-- The runs read equally many items, each compared by `meet`, and then go on with `rest`. -/
def ItemsMeet {ι : Type*} (meet : Prop → ι → ι → Prop) (rest : Prop) : List ι → List ι → Prop
  | [], [] => rest
  | item :: items, item' :: items' => meet (ItemsMeet meet rest items items') item item'
  | _, _ => False

variable {shows : ε → σ} {same : Prop}

theorem Together.cases {next : α → β → Prop} {x : Except ε α} {y : Except ε β}
    (h : Together shows same next x y) :
    (∃ e e', x = .error e ∧ y = .error e' ∧ (same → shows e = shows e')) ∨
      ∃ v w, x = .ok v ∧ y = .ok w ∧ next v w := by
  cases x with
  | error e =>
    cases y with
    | error e' => exact .inl ⟨e, e', rfl, rfl, h⟩
    | ok w => exact h.elim
  | ok v =>
    cases y with
    | error e' => exact h.elim
    | ok w => exact .inr ⟨v, w, rfl, rfl, h⟩

theorem Together.ok {next : α → β → Prop} {v : α} {w : β} (h : next v w) :
    Together shows same next (.ok v) (.ok w) := h

/-- Equal computations go together. -/
theorem Together.of_eq {next : α → α → Prop} {x y : Except ε α} (h : x = y)
    (hnext : ∀ v, y = .ok v → next v v) : Together shows same next x y := by
  subst h
  cases x with
  | error e => exact fun _ => rfl
  | ok v => exact hnext v rfl

/-- Computations that raise alike go together, if the rest does. -/
theorem Together.of_map_eq {next : α → β → Prop} {x : Except ε α} {y : Except ε β}
    (h : x.map (fun _ => ()) = y.map fun _ => ())
    (hnext : ∀ v w, x = .ok v → y = .ok w → next v w) : Together shows same next x y := by
  cases x with
  | error e =>
    cases y with
    | error e' =>
      cases h
      exact fun _ => rfl
    | ok w => cases h
  | ok v =>
    cases y with
    | error e' => cases h
    | ok w => exact hnext v w rfl rfl

/-- Items that are pairwise compared well. -/
theorem ItemsMeet.of_forall₂ {ι : Type*} {meet : Prop → ι → ι → Prop} {rest : Prop}
    {R : ι → ι → Prop} {items items' : List ι} (h : List.Forall₂ R items items') (hrest : rest)
    (hmeet : ∀ item item' (p : Prop), R item item' → p → meet p item item') :
    ItemsMeet meet rest items items' := by
  induction h with
  | nil => exact hrest
  | cons hitem _ ih => exact hmeet _ _ _ hitem ih

/-! ## Traces decide -/

/-- The comparison says of two runs what their traces say: they record the same exactly if the
    traces are equal, as far as they are in step. -/
structure Decides (M : Prop → Prop) (T T' : List σ) : Prop where
  sound : M True → T = T'
  complete : M False → T = T' → M True

/-- A read, which may raise. -/
theorem Decides.follow {next : Prop → α → β → Prop} {x : Except ε α} {y : Except ε β}
    {k : α → List σ} {k' : β → List σ}
    (h : ∀ v w, Decides (fun same => next same v w) (k v) (k' w)) :
    Decides (fun same => Together shows same (next same) x y) (follow shows x k)
      (follow shows y k') := by
  constructor
  · intro hM
    rcases hM.cases with ⟨e, e', rfl, rfl, he⟩ | ⟨v, w, rfl, rfl, hnext⟩
    · exact congrArg (fun s => [s]) (he trivial)
    · exact (h v w).sound hnext
  · intro hM htrace
    rcases hM.cases with ⟨e, e', rfl, rfl, -⟩ | ⟨v, w, rfl, rfl, hnext⟩
    · exact fun _ => List.head_eq_of_cons_eq htrace
    · exact (h v w).complete hnext htrace

/-- A record: it is the same exactly if what is in it is. -/
theorem Decides.cons {M : Prop → Prop} {T T' : List σ} {s s' : σ} {shown : Prop}
    (hshown : s = s' ↔ shown) (h : Decides M T T') :
    Decides (fun same => (same → shown) ∧ M same) (s :: T) (s' :: T') := by
  constructor
  · rintro ⟨hs, hM⟩
    rw [hshown.mpr (hs trivial), h.sound hM]
  · rintro ⟨-, hM⟩ htrace
    obtain ⟨hs, hT⟩ := List.cons.inj htrace
    exact ⟨fun _ => hshown.mp hs, h.complete hM hT⟩

/-- Nothing is left to compare. -/
theorem Decides.refl (T : List σ) : Decides (fun _ => True) T T :=
  ⟨fun _ => rfl, fun _ _ => trivial⟩

/-- A comparison under a condition. -/
theorem Decides.guard {M : Prop → Prop} {T T' : List σ} {p : Prop} (h : p → Decides M T T') :
    Decides (fun same => p ∧ M same) T T' :=
  ⟨fun hM => (h hM.1).sound hM.2, fun hM htrace => ⟨hM.1, (h hM.1).complete hM.2 htrace⟩⟩

/-- A comparison for one case; in the other one the traces are equal anyway. -/
theorem Decides.when {M : Prop → Prop} {T T' : List σ} {p : Prop} (h : p → Decides M T T')
    (heq : ¬ p → T = T') : Decides (fun same => p → M same) T T' := by
  constructor
  · intro hM
    by_cases hp : p
    · exact (h hp).sound (hM hp)
    · exact heq hp
  · exact fun hM htrace hp => (h hp).complete (hM hp) htrace

/-- Runs that are never in step. -/
theorem Decides.never (T T' : List σ) : Decides (fun _ => False) T T' :=
  ⟨False.elim, fun h => h.elim⟩

/-- One item after the other. -/
theorem Decides.items {ι : Type*} {meet : Prop → Prop → ι → ι → Prop}
    {trace : ι → List σ → List σ} {rest : Prop → Prop} {T T' : List σ}
    (hmeet : ∀ item item' (M : Prop → Prop) T T', Decides M T T' →
      Decides (fun same => meet same (M same) item item') (trace item T) (trace item' T'))
    (hrest : Decides rest T T') : ∀ items items' : List ι,
    Decides (fun same => ItemsMeet (meet same) (rest same) items items')
      (followItems trace items T) (followItems trace items' T')
  | [], [] => hrest
  | [], _ :: _ => .never _ _
  | _ :: _, [] => .never _ _
  | item :: items, item' :: items' =>
    hmeet item item' _ _ _ (Decides.items hmeet hrest items items')

end AEControl.Lockstep
