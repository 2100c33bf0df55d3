/-
  Breadth-first walks of a tree with a queue.

  `walk` takes a tree from the left of the queue and puts its children at the right.  `walk_eq` says
  what that comes to: one level after the other, each from left to right.  The crux is
  `walkFrom_append`: the trees in front of the queue are through before any of their children.

  A search for the first node with an answer is then a search for the highest level that has one.
-/
import Mathlib.Data.Nat.Notation

namespace AEControl.Walk

variable {α β : Type*}

/-- A node and its subtrees. -/
inductive Rose (α : Type*) where
  | node (value : α) (children : List (Rose α))

namespace Rose

def value : Rose α → α
  | node a _ => a

def children : Rose α → List (Rose α)
  | node _ cs => cs

mutual

/-- The number of nodes. -/
def size : Rose α → ℕ
  | node _ cs => sizes cs + 1

def sizes : List (Rose α) → ℕ
  | [] => 0
  | t :: ts => size t + sizes ts

end

theorem sizes_append (ts ts' : List (Rose α)) : sizes (ts ++ ts') = sizes ts + sizes ts' := by
  induction ts with
  | nil => simp [sizes]
  | cons t ts ih =>
    rw [List.cons_append, sizes, sizes, ih]
    omega

theorem sizes_children (t : Rose α) : sizes t.children < size t := by
  cases t
  rw [size]
  exact Nat.lt_succ_self _

/-- `a` is the value of a node `n` levels down. -/
inductive At (a : α) : ℕ → Rose α → Prop where
  | root (cs : List (Rose α)) : At a 0 (node a cs)
  | child {n : ℕ} {b : α} {t : Rose α} {cs : List (Rose α)} (ht : t ∈ cs) (h : At a n t) :
    At a (n + 1) (node b cs)

end Rose

open Rose

/-- What is left to visit, the next one first. -/
def walkFrom : List (Rose α) → List α
  | [] => []
  | .node a cs :: todo => a :: walkFrom (todo ++ cs)
termination_by todo => sizes todo
decreasing_by
  rw [sizes_append, sizes, size]
  omega

/-- The nodes of a tree, breadth first. -/
def walk (t : Rose α) : List α := walkFrom [t]

/-- The level `n` down from the roots. -/
def level : ℕ → List (Rose α) → List α
  | 0, ts => ts.map value
  | n + 1, ts => level n (ts.flatMap children)

/-! ## Level after level -/

theorem walkFrom_append (ts todo : List (Rose α)) :
    walkFrom (ts ++ todo) = ts.map value ++ walkFrom (todo ++ ts.flatMap children) := by
  induction ts generalizing todo with
  | nil => simp
  | cons t ts ih =>
    cases t with
    | node a cs =>
      rw [List.cons_append, walkFrom, List.append_assoc, ih]
      simp [value, children]

theorem walkFrom_eq (ts : List (Rose α)) :
    walkFrom ts = ts.map value ++ walkFrom (ts.flatMap children) := by
  simpa using walkFrom_append ts []

theorem sizes_flatMap_le (ts : List (Rose α)) :
    sizes (ts.flatMap children) + ts.length ≤ sizes ts := by
  induction ts with
  | nil => simp [sizes]
  | cons t ts ih =>
    have ht := sizes_children t
    rw [List.flatMap_cons, sizes_append, sizes, List.length_cons]
    omega

theorem level_nil (n : ℕ) : level n ([] : List (Rose α)) = [] := by
  induction n with
  | zero => rfl
  | succ n ih => exact ih

/-- **Breadth first is level after level**; enough levels are as many as there are nodes. -/
theorem walkFrom_eq_levels (ts : List (Rose α)) (height : ℕ) (h : sizes ts ≤ height) :
    walkFrom ts = (List.range height).flatMap fun n => level n ts := by
  induction height generalizing ts with
  | zero =>
    cases ts with
    | nil => rw [walkFrom]; rfl
    | cons t ts =>
      have ht := sizes_children t
      rw [sizes] at h
      omega
  | succ height ih =>
    rw [walkFrom_eq, List.range_succ_eq_map, List.flatMap_cons, List.flatMap_map]
    cases ts with
    | nil => simp [walkFrom, level_nil, level]
    | cons t ts =>
      have hle := sizes_flatMap_le (t :: ts)
      rw [List.length_cons] at hle
      rw [ih _ (by omega)]
      rfl

theorem walk_eq (t : Rose α) :
    walk t = (List.range t.size).flatMap fun n => level n [t] :=
  walkFrom_eq_levels [t] t.size (by simp [sizes])

/-- A level holds what is that far down. -/
theorem mem_level {a : α} {n : ℕ} {ts : List (Rose α)} :
    a ∈ level n ts ↔ ∃ t ∈ ts, t.At a n := by
  induction n generalizing ts with
  | zero =>
    rw [level, List.mem_map]
    refine exists_congr fun t => and_congr_right fun _ => ⟨?_, ?_⟩
    · rintro rfl
      cases t
      exact At.root _
    · rintro ⟨⟩
      rfl
  | succ n ih =>
    rw [level, ih]
    constructor
    · rintro ⟨t, ht, h⟩
      obtain ⟨parent, hparent, ht⟩ := List.mem_flatMap.mp ht
      refine ⟨parent, hparent, ?_⟩
      cases parent
      exact At.child ht h
    · rintro ⟨parent, hparent, h⟩
      cases h with
      | child ht h => exact ⟨_, List.mem_flatMap.mpr ⟨_, hparent, ht⟩, h⟩

theorem At.lt_size {a : α} {n : ℕ} {t : Rose α} (h : t.At a n) : n < t.size := by
  induction h with
  | root cs => simp [size]
  | @child n b t cs ht h ih =>
    have hle : t.size ≤ sizes cs := by
      clear h ih
      induction cs with
      | nil => cases ht
      | cons c cs ihcs =>
        rw [sizes]
        rcases List.mem_cons.mp ht with rfl | ht
        · omega
        · have := ihcs ht
          omega
    rw [size]
    omega

/-- **Every node is visited**, and nothing else. -/
theorem mem_walk {a : α} {t : Rose α} : a ∈ walk t ↔ ∃ n, t.At a n := by
  rw [walk_eq, List.mem_flatMap]
  constructor
  · rintro ⟨n, -, ha⟩
    obtain ⟨t', ht', h⟩ := mem_level.mp ha
    obtain rfl := List.mem_singleton.mp ht'
    exact ⟨n, h⟩
  · rintro ⟨n, h⟩
    exact ⟨n, List.mem_range.mpr (At.lt_size h), mem_level.mpr ⟨t, List.mem_singleton_self t, h⟩⟩

/-! ## Searching -/

variable {f : α → Option β} {b : β}

theorem findSome?_levels (g : ℕ → List α) (n : ℕ) :
    ((List.range n).flatMap g).findSome? f = some b ↔
      ∃ k < n, (g k).findSome? f = some b ∧ ∀ i < k, (g i).findSome? f = none := by
  induction n with
  | zero => simp
  | succ n ih =>
    rw [List.range_succ, List.flatMap_append, List.findSome?_append, Option.or_eq_some_iff, ih,
      List.flatMap_singleton]
    constructor
    · rintro (⟨k, hk, hfound⟩ | ⟨hnone, hfound⟩)
      · exact ⟨k, Nat.lt_succ_of_lt hk, hfound⟩
      · refine ⟨n, n.lt_succ_self, hfound, fun i hi => ?_⟩
        refine List.findSome?_eq_none_iff.mpr fun a ha => ?_
        refine List.findSome?_eq_none_iff.mp hnone a (List.mem_flatMap.mpr ⟨i, ?_, ha⟩)
        exact List.mem_range.mpr hi
    · rintro ⟨k, hk, hfound, hnone⟩
      rcases Nat.lt_succ_iff_lt_or_eq.mp hk with hk | rfl
      · exact Or.inl ⟨k, hk, hfound, hnone⟩
      · refine Or.inr ⟨List.findSome?_eq_none_iff.mpr fun a ha => ?_, hfound⟩
        obtain ⟨i, hi, ha⟩ := List.mem_flatMap.mp ha
        exact List.findSome?_eq_none_iff.mp (hnone i (List.mem_range.mp hi)) a ha

/-- **The first node with an answer** is the leftmost on the highest level with one. -/
theorem findSome?_walk {t : Rose α} :
    (walk t).findSome? f = some b ↔
      ∃ n, (level n [t]).findSome? f = some b ∧ ∀ i < n, (level i [t]).findSome? f = none := by
  rw [walk_eq, findSome?_levels]
  constructor
  · rintro ⟨n, -, h⟩
    exact ⟨n, h⟩
  · rintro ⟨n, hfound, hnone⟩
    refine ⟨n, ?_, hfound, hnone⟩
    obtain ⟨a, ha, -⟩ := List.exists_of_findSome?_eq_some hfound
    obtain ⟨t', ht', hat⟩ := mem_level.mp ha
    obtain rfl := List.mem_singleton.mp ht'
    exact At.lt_size hat

/-- There is no answer when no node has one, however deep it is. -/
theorem findSome?_walk_none {t : Rose α} :
    (walk t).findSome? f = none ↔ ∀ n a, t.At a n → f a = none := by
  rw [List.findSome?_eq_none_iff]
  constructor
  · intro h n a hat
    exact h a (mem_walk.mpr ⟨n, hat⟩)
  · intro h a ha
    obtain ⟨n, hat⟩ := mem_walk.mp ha
    exact h n a hat

end AEControl.Walk
