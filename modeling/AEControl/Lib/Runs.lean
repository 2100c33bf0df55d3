/-
  Runs of a deterministic state machine.

  A machine is a step function `step : σ → ι → σ` over states `σ` and inputs `ι`; a run is a list
  of inputs.  Two readings of "along the run" are used everywhere else:

  * `Throughout P s is`  — `P` holds in every state the run visits, the first one included;
  * `Along ok s is`      — every input of the run is taken in a state where `ok` allows it.

  The rules below carry a fact about one step to the whole run: `run_invariant` for a plain
  invariant, `throughout_of_along` for an invariant that only survives guarded steps, and
  `throughout_iff_along` for a guard that is exactly what the property costs.
-/
import Mathlib.Data.List.Basic

namespace AEControl.Runs

variable {σ ι : Type*} {step : σ → ι → σ}

/-- The state a run ends in. -/
def run (step : σ → ι → σ) (s : σ) (is : List ι) : σ := is.foldl step s

@[simp] theorem run_nil (s : σ) : run step s [] = s := rfl

@[simp] theorem run_cons (s : σ) (i : ι) (is : List ι) :
    run step s (i :: is) = run step (step s i) is := rfl

/-- A run of two lists is the run of the second from where the first ends. -/
theorem run_append (s : σ) (is js : List ι) :
    run step s (is ++ js) = run step (run step s is) js :=
  List.foldl_append

/-- A run of one more input ends with a step. -/
theorem run_snoc (s : σ) (is : List ι) (i : ι) :
    run step s (is ++ [i]) = step (run step s is) i := by
  rw [run_append]; rfl

/-- `P` holds in every state the run visits. -/
def Throughout (step : σ → ι → σ) (P : σ → Prop) : σ → List ι → Prop
  | s, [] => P s
  | s, i :: is => P s ∧ Throughout step P (step s i) is

/-- Every input of the run is taken in a state that `ok` allows it in. -/
def Along (step : σ → ι → σ) (ok : σ → ι → Prop) : σ → List ι → Prop
  | _, [] => True
  | s, i :: is => ok s i ∧ Along step ok (step s i) is

/-- `t` is reached from `s` by some run. -/
def Later (step : σ → ι → σ) (s t : σ) : Prop := ∃ is, t = run step s is

/-- A state is no earlier than itself. -/
theorem Later.refl (s : σ) : Later step s s := ⟨[], rfl⟩

/-- What is later than a later state is later. -/
theorem Later.trans {s t u : σ} (hst : Later step s t) (htu : Later step t u) :
    Later step s u := by
  obtain ⟨is, rfl⟩ := hst
  obtain ⟨js, rfl⟩ := htu
  exact ⟨is ++ js, (run_append s is js).symm⟩

/-! ## From one step to a run -/

/-- An invariant of every step is an invariant of every run. -/
theorem run_invariant (step : σ → ι → σ) (Inv : σ → Prop)
    (hstep : ∀ s i, Inv s → Inv (step s i)) {s : σ} (hs : Inv s) (is : List ι) :
    Inv (run step s is) := by
  induction is generalizing s with
  | nil => exact hs
  | cons i is ih => exact ih (hstep s i hs)

/-- An invariant of the steps with allowed inputs is one of the runs with allowed inputs. -/
theorem run_invariant_of_mem (step : σ → ι → σ) (Inv : σ → Prop) {allowed : ι → Prop}
    (hstep : ∀ s i, allowed i → Inv s → Inv (step s i)) {s : σ} (hs : Inv s) {is : List ι}
    (his : ∀ i ∈ is, allowed i) : Inv (run step s is) := by
  induction is generalizing s with
  | nil => exact hs
  | cons i is ih =>
    exact ih (hstep s i (his i List.mem_cons_self) hs) fun j hj =>
      his j (List.mem_cons_of_mem _ hj)

/-- A step that relates its states by a preorder under an invariant relates any two states of a
    run: the rule for "only ever grows" facts. -/
theorem run_grows (step : σ → ι → σ) (Inv : σ → Prop) {R : σ → σ → Prop}
    (hrefl : ∀ s, R s s)
    (htrans : ∀ {s t u}, R s t → R t u → R s u)
    (hinv : ∀ s i, Inv s → Inv (step s i)) (hstep : ∀ s i, Inv s → R s (step s i))
    {s : σ} (hs : Inv s) (is : List ι) : R s (run step s is) := by
  induction is generalizing s with
  | nil => exact hrefl s
  | cons i is ih => exact htrans (hstep s i hs) (ih (hinv s i hs))

/-- `Throughout` is a statement about every prefix of the run. -/
theorem throughout_iff_prefix {P : σ → Prop} {s : σ} {is : List ι} :
    Throughout step P s is ↔ ∀ js ks, is = js ++ ks → P (run step s js) := by
  induction is generalizing s with
  | nil =>
    constructor
    · intro h js ks hjs
      obtain rfl : js = [] := List.append_eq_nil_iff.mp hjs.symm |>.1
      exact h
    · intro h
      exact h [] [] rfl
  | cons i is ih =>
    constructor
    · rintro ⟨hs, hrest⟩ js ks hjs
      cases js with
      | nil => exact hs
      | cons j js =>
        obtain ⟨rfl, his⟩ := List.cons.inj hjs
        exact ih.mp hrest js ks his
    · intro h
      exact ⟨h [] (i :: is) rfl, ih.mpr fun js ks his => h (i :: js) ks (by rw [his]; rfl)⟩

/-- A property holds throughout two runs put together if it holds throughout each. -/
theorem throughout_append {P : σ → Prop} {s : σ} {is js : List ι} :
    Throughout step P s (is ++ js) ↔
      Throughout step P s is ∧ Throughout step P (run step s is) js := by
  induction is generalizing s with
  | nil =>
    constructor
    · intro h
      refine ⟨?_, h⟩
      cases js with
      | nil => exact h
      | cons j js => exact h.1
    · intro h
      exact h.2
  | cons i is ih =>
    show P s ∧ Throughout step P (step s i) (is ++ js) ↔ _
    rw [ih, ← and_assoc]
    exact Iff.rfl

/-- What follows from a property holds throughout wherever the property does. -/
theorem Throughout.imp {P Q : σ → Prop} (hPQ : ∀ s, P s → Q s) {s : σ} {is : List ι}
    (h : Throughout step P s is) : Throughout step Q s is := by
  induction is generalizing s with
  | nil => exact hPQ s h
  | cons i is ih => exact ⟨hPQ s h.1, ih h.2⟩

/-- What holds throughout a run holds at its end. -/
theorem Throughout.last {P : σ → Prop} {s : σ} {is : List ι} (h : Throughout step P s is) :
    P (run step s is) := by
  induction is generalizing s with
  | nil => exact h
  | cons i is ih => exact ih h.2

/-- A property that every input of a list preserves holds throughout it. -/
theorem throughout_of_preserved {P : σ → Prop} {is : List ι}
    (h : ∀ i ∈ is, ∀ s, P s → P (step s i)) {s : σ} (hs : P s) : Throughout step P s is := by
  induction is generalizing s with
  | nil => exact hs
  | cons i is ih =>
    refine ⟨hs, ih (fun j hj => h j (List.mem_cons_of_mem _ hj)) ?_⟩
    exact h i List.mem_cons_self s hs

/-- A condition is met along two runs put together if it is met along each. -/
theorem along_append {ok : σ → ι → Prop} {s : σ} {is js : List ι} :
    Along step ok s (is ++ js) ↔ Along step ok s is ∧ Along step ok (run step s is) js := by
  induction is generalizing s with
  | nil => exact (iff_of_eq (true_and _)).symm
  | cons i is ih =>
    show ok s i ∧ Along step ok (step s i) (is ++ js) ↔ _
    rw [ih, ← and_assoc]
    rfl

/-- Two guards that agree wherever an invariant holds allow the same runs. -/
theorem along_congr (step : σ → ι → σ) (Inv : σ → Prop) {ok ok' : σ → ι → Prop}
    (hinv : ∀ s i, Inv s → Inv (step s i)) (hok : ∀ s i, Inv s → (ok s i ↔ ok' s i))
    {s : σ} (hs : Inv s) (is : List ι) : Along step ok s is ↔ Along step ok' s is := by
  induction is generalizing s with
  | nil => exact Iff.rfl
  | cons i is ih => exact and_congr (hok s i hs) (ih (hinv s i hs))

/-- A property that every allowed step preserves holds throughout every allowed run. -/
theorem throughout_of_along (step : σ → ι → σ) (Inv : σ → Prop) {P : σ → Prop}
    {ok : σ → ι → Prop}
    (hinv : ∀ s i, Inv s → Inv (step s i))
    (hstep : ∀ s i, Inv s → P s → ok s i → P (step s i))
    {s : σ} (hs : Inv s) (hP : P s) {is : List ι} (h : Along step ok s is) :
    Throughout step P s is := by
  induction is generalizing s with
  | nil => exact hP
  | cons i is ih => exact ⟨hP, ih (hinv s i hs) (hstep s i hs hP h.1) h.2⟩

/-- **The exact price of a property.**  When, under an invariant, a step from a good state is
    good exactly if the guard allows it, the property holds throughout a run exactly if the guard
    allows every step of it.  The invariant may need what `dom` says of the inputs. -/
theorem throughout_iff_along_within (step : σ → ι → σ) (Inv : σ → Prop) {P : σ → Prop}
    {dom ok : σ → ι → Prop}
    (hinv : ∀ s i, Inv s → dom s i → Inv (step s i))
    (hstep : ∀ s i, Inv s → dom s i → P s → (P (step s i) ↔ ok s i))
    {s : σ} (hs : Inv s) (hP : P s) (is : List ι) (hdom : Along step dom s is) :
    Throughout step P s is ↔ Along step ok s is := by
  induction is generalizing s with
  | nil => exact ⟨fun _ => trivial, fun _ => hP⟩
  | cons i is ih =>
    constructor
    · rintro ⟨-, hrest⟩
      have hnext : P (step s i) := by
        cases is with
        | nil => exact hrest
        | cons j js => exact hrest.1
      exact ⟨(hstep s i hs hdom.1 hP).mp hnext, (ih (hinv s i hs hdom.1) hnext hdom.2).mp hrest⟩
    · rintro ⟨hok, hrest⟩
      have hnext : P (step s i) := (hstep s i hs hdom.1 hP).mpr hok
      exact ⟨hP, (ih (hinv s i hs hdom.1) hnext hdom.2).mpr hrest⟩

/-- A run is no longer than a measure that every allowed step lowers. -/
theorem Along.length_le {ok : σ → ι → Prop} {m : σ → ℕ}
    (hstep : ∀ s i, ok s i → m (step s i) < m s) {s : σ} {is : List ι}
    (h : Along step ok s is) : is.length ≤ m s := by
  induction is generalizing s with
  | nil => exact Nat.zero_le _
  | cons i is ih =>
    have hless := hstep s i h.1
    have hrest := ih h.2
    rw [List.length_cons]
    omega

/-- A condition that every step meets is met along every run. -/
theorem along_of_forall {ok : σ → ι → Prop} (h : ∀ s i, ok s i) (s : σ) (is : List ι) :
    Along step ok s is := by
  induction is generalizing s with
  | nil => trivial
  | cons i is ih => exact ⟨h s i, ih _⟩

/-- The exact price of a property, for inputs of any kind. -/
theorem throughout_iff_along (step : σ → ι → σ) (Inv : σ → Prop) {P : σ → Prop}
    {ok : σ → ι → Prop}
    (hinv : ∀ s i, Inv s → Inv (step s i))
    (hstep : ∀ s i, Inv s → P s → (P (step s i) ↔ ok s i))
    {s : σ} (hs : Inv s) (hP : P s) (is : List ι) :
    Throughout step P s is ↔ Along step ok s is :=
  @throughout_iff_along_within σ ι step Inv P (fun _ _ => True) ok (fun s i h _ => hinv s i h)
    (fun s i h _ => hstep s i h) s hs hP is (along_of_forall (fun _ _ => trivial) s is)

end AEControl.Runs
