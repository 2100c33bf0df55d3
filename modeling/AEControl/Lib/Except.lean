/-
  Inversion of computations that may raise: what a successful `do` block went through.
-/
import Mathlib.Data.List.Forall2

namespace AEControl.Raising

variable {ε α β : Type*}

/-- A sequence that succeeds succeeded in both parts. -/
theorem bind_ok {x : Except ε α} {f : α → Except ε β} {b : β} (h : x.bind f = .ok b) :
    ∃ a, x = .ok a ∧ f a = .ok b := by
  cases x with
  | error e => cases h
  | ok a => exact ⟨a, rfl, h⟩

/-- A sequence that raises raised in its first part or in its second. -/
theorem bind_error {x : Except ε α} {f : α → Except ε β} {e : ε} (h : x.bind f = .error e) :
    x = .error e ∨ ∃ a, x = .ok a ∧ f a = .error e := by
  cases x with
  | error e' => exact Or.inl (congrArg _ (Except.error.inj h))
  | ok a => exact Or.inr ⟨a, rfl, h⟩

theorem map_error {x : Except ε α} {f : α → β} {e : ε} (h : x.map f = .error e) :
    x = .error e := by
  cases x with
  | error e' => exact congrArg _ (Except.error.inj h)
  | ok a => cases h

theorem map_ok {x : Except ε α} {f : α → β} {b : β} (h : x.map f = .ok b) :
    ∃ a, x = .ok a ∧ f a = b := by
  cases x with
  | error e => cases h
  | ok a => exact ⟨a, rfl, Except.ok.inj h⟩

/-- Translating the exception does not touch a result. -/
theorem mapError_ok {ε' : Type*} {x : Except ε α} {f : ε → ε'} {a : α} :
    x.mapError f = .ok a ↔ x = .ok a := by
  cases x <;> simp [Except.mapError]

theorem mapError_error {ε' : Type*} {x : Except ε α} {f : ε → ε'} {e : ε'}
    (h : x.mapError f = .error e) : ∃ e', x = .error e' ∧ f e' = e := by
  cases x with
  | error e' => exact ⟨e', rfl, Except.error.inj h⟩
  | ok a => cases h

/-- Sequences that agree from each first result on agree. -/
theorem bind_congr {x : Except ε α} {f f' : α → Except ε β} (h : ∀ a, x = .ok a → f a = f' a) :
    x.bind f = x.bind f' := by
  cases x with
  | error e => rfl
  | ok a => exact h a rfl

/-- A loop that succeeds succeeded on every element, in order. -/
theorem mapM_ok {f : α → Except ε β} {as : List α} {bs : List β} (h : as.mapM f = .ok bs) :
    List.Forall₂ (fun a b => f a = .ok b) as bs := by
  induction as generalizing bs with
  | nil =>
    obtain rfl : [] = bs := Except.ok.inj h
    exact List.Forall₂.nil
  | cons a as ih =>
    rw [List.mapM_cons] at h
    obtain ⟨b, hb, hrest⟩ := bind_ok h
    obtain ⟨bs', hbs, hcons⟩ := bind_ok hrest
    obtain rfl : b :: bs' = bs := Except.ok.inj hcons
    exact List.Forall₂.cons hb (ih hbs)

/-- Every element of the input has its result in the output … -/
theorem forall₂_mem_left {R : α → β → Prop} {as : List α} {bs : List β} (h : List.Forall₂ R as bs)
    {a : α} (ha : a ∈ as) : ∃ b ∈ bs, R a b := by
  induction h with
  | nil => cases ha
  | @cons x y as bs hxy _ ih =>
    rcases List.mem_cons.mp ha with rfl | ha
    · exact ⟨y, List.mem_cons_self, hxy⟩
    · obtain ⟨b, hb, hab⟩ := ih ha
      exact ⟨b, List.mem_cons_of_mem y hb, hab⟩

/-- … and every element of the output comes from one of the input. -/
theorem forall₂_mem_right {R : α → β → Prop} {as : List α} {bs : List β}
    (h : List.Forall₂ R as bs) {b : β} (hb : b ∈ bs) : ∃ a ∈ as, R a b := by
  obtain ⟨a, ha, hab⟩ := forall₂_mem_left (List.Forall₂.flip h) hb
  exact ⟨a, ha, hab⟩

/-- A loop succeeds with the results of its steps. -/
theorem mapM_of_forall₂ {f : α → Except ε β} {as : List α} {bs : List β}
    (h : List.Forall₂ (fun a b => f a = .ok b) as bs) : as.mapM f = .ok bs := by
  induction h with
  | nil => rfl
  | cons hb _ ih =>
    rw [List.mapM_cons, hb, ih]
    rfl

/-- A loop whose every step succeeds succeeds. -/
theorem mapM_of_forall {f : α → Except ε β} {as : List α} (h : ∀ a ∈ as, ∃ b, f a = .ok b) :
    ∃ bs, as.mapM f = .ok bs := by
  induction as with
  | nil => exact ⟨[], rfl⟩
  | cons a as ih =>
    obtain ⟨b, hb⟩ := h a List.mem_cons_self
    obtain ⟨bs, hbs⟩ := ih fun a ha => h a (List.mem_cons_of_mem _ ha)
    exact ⟨b :: bs, by rw [List.mapM_cons, hb, hbs]; rfl⟩

/-- A loop none of whose steps raises is a map. -/
theorem mapM_eq_map {f : α → Except ε β} {g : α → β} {as : List α}
    (h : ∀ a ∈ as, f a = .ok (g a)) : as.mapM f = .ok (as.map g) := by
  induction as with
  | nil => rfl
  | cons a as ih =>
    rw [List.mapM_cons, h a List.mem_cons_self, ih fun x hx => h x (List.mem_cons_of_mem _ hx)]
    rfl

/-- A loop stops at the first step that raises. -/
theorem mapM_error {f : α → Except ε β} {before after : List α} {a : α} {e : ε}
    (hbefore : ∀ x ∈ before, ∃ b, f x = .ok b) (ha : f a = .error e) :
    (before ++ a :: after).mapM f = .error e := by
  induction before with
  | nil => rw [List.nil_append, List.mapM_cons, ha]; rfl
  | cons x before ih =>
    obtain ⟨b, hb⟩ := hbefore x List.mem_cons_self
    have hrest := ih fun y hy => hbefore y (List.mem_cons_of_mem _ hy)
    rw [List.cons_append, List.mapM_cons, hb, hrest]
    rfl

/-- A loop that collects findings finds nothing exactly if no step does. -/
theorem findings_eq_nil {f : α → Except ε (Option β)} {as : List α} {bs : List (Option β)}
    (h : as.mapM f = .ok bs) : bs.filterMap id = [] ↔ ∀ a ∈ as, f a = .ok none := by
  have hrel := mapM_ok h
  rw [List.filterMap_eq_nil_iff]
  constructor
  · intro hnone a ha
    obtain ⟨b, hb, hab⟩ := forall₂_mem_left hrel ha
    rw [hab, show b = none from hnone b hb]
  · intro hnone b hb
    obtain ⟨a, ha, hab⟩ := forall₂_mem_right hrel hb
    have := hnone a ha
    rw [hab] at this
    exact Except.ok.inj this

/-- What it finds is what some step found … -/
theorem mem_findings {f : α → Except ε (Option β)} {as : List α} {bs : List (Option β)}
    (h : as.mapM f = .ok bs) {b : β} : b ∈ bs.filterMap id ↔ ∃ a ∈ as, f a = .ok (some b) := by
  have hrel := mapM_ok h
  rw [List.mem_filterMap]
  constructor
  · rintro ⟨found, hfound, hb⟩
    obtain ⟨a, ha, hab⟩ := forall₂_mem_right hrel hfound
    exact ⟨a, ha, by rw [hab, show found = some b from hb]⟩
  · rintro ⟨a, ha, hab⟩
    obtain ⟨found, hfound, hab'⟩ := forall₂_mem_left hrel ha
    obtain rfl : some b = found := Except.ok.inj (hab.symm.trans hab')
    exact ⟨some b, hfound, rfl⟩

/-- … in the order of the steps, each step finding one thing at most. -/
theorem findings_sublist {κ : Type*} (key : α → κ) (key' : β → κ) {f : α → Except ε (Option β)}
    (hkey : ∀ a b, f a = .ok (some b) → key' b = key a) {as : List α} {bs : List (Option β)}
    (h : as.mapM f = .ok bs) : ((bs.filterMap id).map key').Sublist (as.map key) := by
  have hrel := mapM_ok h
  clear h
  induction hrel with
  | nil => exact List.Sublist.refl _
  | @cons a found as bs hfound _ ih =>
    cases found with
    | none => exact ih.cons (key a)
    | some b =>
      show (key' b :: (bs.filterMap id).map key').Sublist (key a :: as.map key)
      rw [hkey a b hfound]
      exact ih.cons_cons (key a)

end AEControl.Raising
