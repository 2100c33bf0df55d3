/-
  Computations that leave a trace of effects and may raise.

  `Attempted ε ρ α` is the trace and the outcome.  A sequence keeps the trace of what ran, also when
  it raises; `attempt` is a `try` whose `except` clause is a test; `retry` repeats a body that may
  come to nothing, so many times at most.  The rules say what each of them returns, raises and does.
-/
import Mathlib.Data.List.Basic

namespace AEControl

/-- The effects so far, in order, and the result or what was raised. -/
structure Attempted (ε ρ α : Type*) where
  effects : List ε
  result : Except ρ α

namespace Attempted

variable {ε ρ : Type*}

instance : Monad (Attempted ε ρ) where
  pure a := ⟨[], .ok a⟩
  bind x f :=
    match x.result with
    | .error e => ⟨x.effects, .error e⟩
    | .ok a => ⟨x.effects ++ (f a).effects, (f a).result⟩

section

variable {α β : Type*}

/-- No effect. -/
def of (x : Except ρ α) : Attempted ε ρ α := ⟨[], x⟩

/-- One effect, whatever comes of it. -/
def effect (e : ε) (x : Except ρ α) : Attempted ε ρ α := ⟨[e], x⟩

/-- `try`: an exception that is caught becomes a value. -/
def attempt (caught : ρ → Bool) (x : Attempted ε ρ α) : Attempted ε ρ (Except ρ α) :=
  match x.result with
  | .ok a => ⟨x.effects, .ok (.ok a)⟩
  | .error e => ⟨x.effects, if caught e then .ok (.error e) else .error e⟩

def Returns (x : Attempted ε ρ α) (a : α) : Prop := x.result = .ok a

def Raises (x : Attempted ε ρ α) (e : ρ) : Prop := x.result = .error e

/-- A computation returns or raises. -/
theorem returns_or_raises (x : Attempted ε ρ α) : (∃ a, x.Returns a) ∨ ∃ e, x.Raises e := by
  cases h : x.result with
  | ok a => exact Or.inl ⟨a, h⟩
  | error e => exact Or.inr ⟨e, h⟩

/-- A computation returns one thing. -/
theorem Returns.unique {x : Attempted ε ρ α} {a b : α} (ha : x.Returns a) (hb : x.Returns b) :
    a = b :=
  Except.ok.inj (ha.symm.trans hb)

/-- A computation that returns does not raise. -/
theorem Returns.not_raises {x : Attempted ε ρ α} {a : α} {e : ρ} (ha : x.Returns a) :
    ¬ x.Raises e := by
  intro he
  cases ha.symm.trans he

/-- What has no effect returns the value it is. -/
theorem returns_of {x : Except ρ α} {a : α} :
    (of x : Attempted ε ρ α).Returns a ↔ x = .ok a := Iff.rfl

/-- What has no effect raises the error it is. -/
theorem raises_of {x : Except ρ α} {e : ρ} :
    (of x : Attempted ε ρ α).Raises e ↔ x = .error e := Iff.rfl

/-- An effect returns what came of it. -/
theorem returns_effect {e : ε} {x : Except ρ α} {a : α} :
    (effect e x).Returns a ↔ x = .ok a := Iff.rfl

/-- An effect raises what it failed with. -/
theorem raises_effect {e : ε} {x : Except ρ α} {r : ρ} :
    (effect e x).Raises r ↔ x = .error r := Iff.rfl

/-! ## `try` -/

variable {caught : ρ → Bool} {x : Attempted ε ρ α}

@[simp] theorem effects_attempt : (x.attempt caught).effects = x.effects := by
  unfold attempt
  split <;> rfl

/-- An attempt returns what came of the computation, if that is caught. -/
theorem returns_attempt {r : Except ρ α} : (x.attempt caught).Returns r ↔
    x.result = r ∧ ∀ e, r = .error e → caught e = true := by
  obtain ⟨effects, result⟩ := x
  constructor
  · intro h
    cases result with
    | ok a =>
      obtain rfl := Except.ok.inj h
      exact ⟨rfl, by simp⟩
    | error e =>
      by_cases hc : caught e = true
      · obtain rfl := Except.ok.inj ((if_pos hc).symm.trans h)
        exact ⟨rfl, fun e' h' => Except.error.inj h' ▸ hc⟩
      · cases (if_neg hc).symm.trans h
  · rintro ⟨rfl, h⟩
    cases result with
    | ok a => rfl
    | error e => exact if_pos (h e rfl)

/-- An attempt raises what is not caught. -/
theorem raises_attempt {e : ρ} : (x.attempt caught).Raises e ↔ x.Raises e ∧ caught e = false := by
  obtain ⟨effects, result⟩ := x
  constructor
  · intro h
    cases result with
    | ok a => cases h
    | error e' =>
      cases hc : caught e' with
      | true => cases (if_pos hc).symm.trans h
      | false =>
        obtain rfl := Except.error.inj ((if_neg (by simp [hc])).symm.trans h)
        exact ⟨rfl, hc⟩
  · rintro ⟨rfl, h⟩
    exact if_neg (by simp [h])

end

/-! ## Sequences -/

section

universe u

variable {α β : Type u} {x : Attempted ε ρ α} {f : α → Attempted ε ρ β}

/-- After a computation that returns, the next one follows with its value. -/
theorem bind_of_returns {a : α} (h : x.Returns a) :
    x >>= f = ⟨x.effects ++ (f a).effects, (f a).result⟩ := by
  change (match x.result with
    | .error e => ⟨x.effects, .error e⟩
    | .ok a => ⟨x.effects ++ (f a).effects, (f a).result⟩ : Attempted ε ρ β) = _
  rw [h]

/-- After a computation that raises, no other follows. -/
theorem bind_of_raises {e : ρ} (h : x.Raises e) : x >>= f = ⟨x.effects, .error e⟩ := by
  change (match x.result with
    | .error e => ⟨x.effects, .error e⟩
    | .ok a => ⟨x.effects ++ (f a).effects, (f a).result⟩ : Attempted ε ρ β) = _
  rw [h]

/-- What has no effect and returns leaves the second part. -/
theorem of_bind {r : Except ρ α} {a : α} (h : r = .ok a) : (of r >>= f) = f a := by
  rw [bind_of_returns (returns_of.mpr h)]
  rfl

/-- A value returns itself. -/
theorem returns_pure {a b : α} : (pure a : Attempted ε ρ α).Returns b ↔ a = b :=
  ⟨Except.ok.inj, congrArg _⟩

/-- A value raises nothing. -/
theorem not_raises_pure {a : α} {e : ρ} : ¬ (pure a : Attempted ε ρ α).Raises e := by
  intro h
  cases h

@[simp] theorem effects_pure (a : α) : (pure a : Attempted ε ρ α).effects = [] := rfl

/-- A sequence returns what its second part returns on what its first part returned. -/
theorem returns_bind {b : β} : (x >>= f).Returns b ↔ ∃ a, x.Returns a ∧ (f a).Returns b := by
  constructor
  · intro h
    obtain ⟨a, ha⟩ | ⟨e, he⟩ := x.returns_or_raises
    · rw [bind_of_returns ha] at h
      exact ⟨a, ha, h⟩
    · rw [bind_of_raises he] at h
      cases h
  · rintro ⟨a, ha, h⟩
    rw [bind_of_returns ha]
    exact h

/-- A sequence raises what its first part raises, or its second part after it. -/
theorem raises_bind {e : ρ} :
    (x >>= f).Raises e ↔ x.Raises e ∨ ∃ a, x.Returns a ∧ (f a).Raises e := by
  constructor
  · intro h
    obtain ⟨a, ha⟩ | ⟨e', he⟩ := x.returns_or_raises
    · rw [bind_of_returns ha] at h
      exact Or.inr ⟨a, ha, h⟩
    · rw [bind_of_raises he] at h
      obtain rfl := Except.error.inj h
      exact Or.inl he
  · rintro (h | ⟨a, ha, h⟩)
    · rw [bind_of_raises h]
      rfl
    · rw [bind_of_returns ha]
      exact h

/-- The first part's effects come first, and the second part has effects only once the first has
    returned. -/
theorem effects_bind :
    (x >>= f).effects = x.effects ∧ (∃ e, x.Raises e) ∨
      ∃ a, x.Returns a ∧ (x >>= f).effects = x.effects ++ (f a).effects := by
  obtain ⟨a, ha⟩ | ⟨e, he⟩ := x.returns_or_raises
  · exact Or.inr ⟨a, ha, by rw [bind_of_returns ha]⟩
  · exact Or.inl ⟨by rw [bind_of_raises he], e, he⟩

end

/-! ## Repetition -/

section

variable {α : Type} {body : ℕ → Attempted ε ρ (Option α)} {exhausted : ρ}

/-- `for i in range(from, from + attempts)`: the first result of the body, or `exhausted`. -/
def retry (body : ℕ → Attempted ε ρ (Option α)) (exhausted : ρ) : ℕ → ℕ → Attempted ε ρ α
  | 0, _ => of (.error exhausted)
  | attempts + 1, i => do
    match ← body i with
    | some a => pure a
    | none => retry body exhausted attempts (i + 1)

/-- A fruitless round is followed by the next one. -/
theorem retry_of_none {attempts i : ℕ} (h : (body i).Returns none) :
    retry body exhausted (attempts + 1) i =
      ⟨(body i).effects ++ (retry body exhausted attempts (i + 1)).effects,
        (retry body exhausted attempts (i + 1)).result⟩ :=
  bind_of_returns h

/-- A fruitful round ends the loop. -/
theorem retry_of_some {attempts i : ℕ} {a : α} (h : (body i).Returns (some a)) :
    retry body exhausted (attempts + 1) i = ⟨(body i).effects, .ok a⟩ := by
  refine (bind_of_returns h).trans ?_
  simp only [effects_pure, List.append_nil]
  rfl

/-- A round that raises ends the loop, too. -/
theorem retry_of_raises {attempts i : ℕ} {e : ρ} (h : (body i).Raises e) :
    retry body exhausted (attempts + 1) i = ⟨(body i).effects, .error e⟩ :=
  bind_of_raises h

/-- The attempts before the `k`-th have come to nothing. -/
def Fruitless (body : ℕ → Attempted ε ρ (Option α)) (i k : ℕ) : Prop :=
  ∀ j < k, (body (i + j)).Returns none

/-- Before the first round none was fruitless. -/
theorem Fruitless.zero {i : ℕ} : Fruitless body i 0 := by
  intro j hj
  omega

/-- One more round is fruitless if the first one is and those after it are. -/
theorem fruitless_succ {i k : ℕ} :
    Fruitless body i (k + 1) ↔ (body i).Returns none ∧ Fruitless body (i + 1) k := by
  constructor
  · intro h
    refine ⟨h 0 (by omega), fun j hj => ?_⟩
    have := h (j + 1) (by omega)
    rwa [show i + (j + 1) = i + 1 + j by omega] at this
  · rintro ⟨h0, h⟩ j hj
    cases j with
    | zero => exact h0
    | succ j =>
      have := h j (by omega)
      rwa [show i + 1 + j = i + (j + 1) by omega] at this

variable (exhausted) in
/-- **The first fruitful attempt decides.** -/
theorem retry_decided {attempts i k : ℕ} (hk : k < attempts) (hbefore : Fruitless body i k)
    (hat : ¬ (body (i + k)).Returns none) :
    (retry body exhausted attempts i).effects =
        (List.range (k + 1)).flatMap (fun j => (body (i + j)).effects) ∧
      (∀ a, (retry body exhausted attempts i).Returns a ↔ (body (i + k)).Returns (some a)) ∧
      ∀ e, (retry body exhausted attempts i).Raises e ↔ (body (i + k)).Raises e := by
  induction k generalizing attempts i with
  | zero =>
    obtain ⟨attempts, rfl⟩ : ∃ n, attempts = n + 1 := ⟨attempts - 1, by omega⟩
    obtain ⟨r, hr⟩ | ⟨e, he⟩ := (body i).returns_or_raises
    · cases r with
      | none => exact absurd hr hat
      | some a =>
        rw [retry_of_some hr]
        refine ⟨by simp, fun b => ?_, fun e => ?_⟩
        · constructor
          · intro h
            obtain rfl := Except.ok.inj h
            exact hr
          · intro h
            exact congrArg _ (Option.some.inj (hr.unique h))
        · constructor
          · intro h
            cases h
          · intro h
            exact absurd h hr.not_raises
    · rw [retry_of_raises he]
      refine ⟨by simp, fun b => ?_, fun e' => ?_⟩
      · constructor
        · intro h
          cases h
        · intro h
          exact absurd he h.not_raises
      · constructor
        · intro h
          obtain rfl := Except.error.inj h
          exact he
        · intro h
          obtain rfl := Except.error.inj (he.symm.trans h)
          rfl
  | succ k ih =>
    obtain ⟨attempts, rfl⟩ : ∃ n, attempts = n + 1 := ⟨attempts - 1, by omega⟩
    obtain ⟨hnone, hrest⟩ := fruitless_succ.mp hbefore
    have hshift : i + (k + 1) = i + 1 + k := by omega
    rw [hshift] at hat ⊢
    have hk' : k < attempts := by omega
    obtain ⟨heffects, hreturns, hraises⟩ := ih hk' hrest hat
    rw [retry_of_none hnone]
    refine ⟨?_, hreturns, hraises⟩
    rw [heffects, List.range_succ_eq_map (n := k + 1), List.flatMap_cons, List.flatMap_map]
    refine congrArg ((body i).effects ++ ·) (congrArg (List.flatMap · _) (funext fun j => ?_))
    rw [show i + Nat.succ j = i + 1 + j by omega]

/-- Attempts that all come to nothing raise `exhausted`. -/
theorem retry_exhausted {attempts i : ℕ} (h : Fruitless body i attempts) :
    retry body exhausted attempts i =
      ⟨(List.range attempts).flatMap fun j => (body (i + j)).effects, .error exhausted⟩ := by
  induction attempts generalizing i with
  | zero => rfl
  | succ n ih =>
    obtain ⟨hnone, hrest⟩ := fruitless_succ.mp h
    rw [retry_of_none hnone, ih hrest, List.range_succ_eq_map, List.flatMap_cons,
      List.flatMap_map]
    simp only [Nat.succ_eq_add_one, Nat.add_zero, Nat.add_assoc, Nat.add_comm 1]

/-- Some attempt is the first that does not come to nothing, or none is. -/
theorem fruitless_or_decided (body : ℕ → Attempted ε ρ (Option α)) (attempts : ℕ) :
    Fruitless body 0 attempts ∨
      ∃ k < attempts, Fruitless body 0 k ∧ ¬ (body k).Returns none := by
  induction attempts with
  | zero => exact Or.inl .zero
  | succ n ih =>
    obtain h | ⟨k, hk, h⟩ := ih
    · by_cases hn : (body n).Returns none
      · left
        intro j hj
        obtain hj | rfl := Nat.lt_succ_iff_lt_or_eq.mp hj
        · exact h j hj
        · rwa [Nat.zero_add]
      · exact Or.inr ⟨n, by omega, h, hn⟩
    · exact Or.inr ⟨k, by omega, h⟩

end

end Attempted

end AEControl
