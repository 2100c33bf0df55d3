/-
  Hash chains: every entry carries a sequence number, the hash of the entry before it and its own
  hash, recomputed from its fields by a digest function.

  `LinkedFrom n d es` says that `es` continues a chain whose next number is `n` and whose head is
  `d`.  A chain grows by one entry (`linkedFrom_append_one`), restricts to its prefixes
  (`LinkedFrom.take`), and its head commits to everything below it: two linked chains of one length
  and one head have the same contents, entry by entry (`contents_eq_of_head_eq`), as long as the
  digest does not collide on the entries of the two.
-/
import Mathlib.Data.List.Basic
import Mathlib.Data.List.Range
import Mathlib.Data.List.Induction

namespace AEControl.HashChain

/-- How a chain is read off its entries. -/
structure Reader (ε δ : Type*) where
  sequence : ε → ℕ
  previous : ε → δ
  entry : ε → δ
  /-- The hash of the entry's own fields, its predecessor's hash among them. -/
  digest : ε → δ

variable {ε δ γ : Type*} (R : Reader ε δ)

/-- The entries continue a chain with next number `n` and head `d`. -/
def LinkedFrom : ℕ → δ → List ε → Prop
  | _, _, [] => True
  | n, d, e :: es =>
    (R.sequence e = n ∧ R.previous e = d ∧ R.entry e = R.digest e) ∧
      LinkedFrom (n + 1) (R.entry e) es

/-- The head of a chain that continues `d`: the last entry's hash. -/
def headFrom : δ → List ε → δ
  | d, [] => d
  | _, e :: es => headFrom (R.entry e) es

variable {R}

@[simp] theorem linkedFrom_nil (n : ℕ) (d : δ) : LinkedFrom R n d [] := trivial

@[simp] theorem linkedFrom_cons {n : ℕ} {d : δ} {e : ε} {es : List ε} :
    LinkedFrom R n d (e :: es) ↔
      (R.sequence e = n ∧ R.previous e = d ∧ R.entry e = R.digest e) ∧
        LinkedFrom R (n + 1) (R.entry e) es := Iff.rfl

@[simp] theorem headFrom_nil (d : δ) : headFrom R d [] = d := rfl

@[simp] theorem headFrom_cons (d : δ) (e : ε) (es : List ε) :
    headFrom R d (e :: es) = headFrom R (R.entry e) es := rfl

theorem headFrom_append (d : δ) (es fs : List ε) :
    headFrom R d (es ++ fs) = headFrom R (headFrom R d es) fs := by
  induction es generalizing d with
  | nil => rfl
  | cons e es ih => exact ih (R.entry e)

@[simp] theorem headFrom_append_one (d : δ) (es : List ε) (e : ε) :
    headFrom R d (es ++ [e]) = R.entry e := by
  rw [headFrom_append]; rfl

/-! ## Growing and cutting -/

theorem linkedFrom_append {n : ℕ} {d : δ} {es fs : List ε} :
    LinkedFrom R n d (es ++ fs) ↔
      LinkedFrom R n d es ∧ LinkedFrom R (n + es.length) (headFrom R d es) fs := by
  induction es generalizing n d with
  | nil => simp
  | cons e es ih =>
    have hlen : n + 1 + es.length = n + (e :: es).length := by simp; omega
    rw [List.cons_append, linkedFrom_cons, linkedFrom_cons, ih, hlen, headFrom_cons]
    exact and_assoc.symm

/-- **The append rule.**  A chain of `k` entries from number `n` takes as its next entry one that is
    numbered `n + k`, names the head and hashes its own fields. -/
theorem linkedFrom_append_one {n : ℕ} {d : δ} {es : List ε} {e : ε} :
    LinkedFrom R n d (es ++ [e]) ↔ LinkedFrom R n d es ∧
      R.sequence e = n + es.length ∧ R.previous e = headFrom R d es ∧
        R.entry e = R.digest e := by
  rw [linkedFrom_append, linkedFrom_cons]
  simp

theorem LinkedFrom.take {n : ℕ} {d : δ} {es : List ε} (h : LinkedFrom R n d es) (k : ℕ) :
    LinkedFrom R n d (es.take k) := by
  rw [← List.take_append_drop k es] at h
  exact (linkedFrom_append.mp h).1

/-- Every entry names the hash before it, the first one what the chain continues. -/
theorem LinkedFrom.previous_eq {n : ℕ} {d : δ} {es : List ε} (h : LinkedFrom R n d es) :
    es.map R.previous = (d :: es.map R.entry).dropLast := by
  induction es generalizing n d with
  | nil => rfl
  | cons e es ih =>
    obtain ⟨⟨_, hprev, _⟩, hrest⟩ := h
    rw [List.map_cons, List.map_cons, List.dropLast_cons_cons, hprev, ih hrest]

/-- Every entry hashes its own fields. -/
theorem LinkedFrom.entry_eq {n : ℕ} {d : δ} {es : List ε} (h : LinkedFrom R n d es) :
    ∀ e ∈ es, R.entry e = R.digest e := by
  induction es generalizing n d with
  | nil => simp
  | cons e es ih =>
    obtain ⟨⟨_, _, hentry⟩, hrest⟩ := h
    exact List.forall_mem_cons.mpr ⟨hentry, ih hrest⟩

/-! ## Sequence numbers -/

/-- The numbers of a chain are consecutive. -/
theorem LinkedFrom.sequences {n : ℕ} {d : δ} {es : List ε} (h : LinkedFrom R n d es) :
    es.map R.sequence = List.range' n es.length := by
  induction es generalizing n d with
  | nil => rfl
  | cons e es ih =>
    obtain ⟨⟨hseq, _⟩, hrest⟩ := h
    rw [List.map_cons, List.length_cons, List.range'_succ, hseq, ih hrest]

theorem LinkedFrom.sequence_getElem {n : ℕ} {d : δ} {es : List ε} (h : LinkedFrom R n d es)
    {i : ℕ} (hi : i < es.length) : R.sequence es[i] = n + i := by
  have := List.getElem_of_eq h.sequences (i := i) (by simpa using hi)
  simpa using this

/-- An entry of a chain stands where its number says. -/
theorem LinkedFrom.exists_getElem {n : ℕ} {d : δ} {es : List ε} (h : LinkedFrom R n d es) {e : ε}
    (he : e ∈ es) : ∃ i, ∃ hi : i < es.length, es[i] = e ∧ R.sequence e = n + i := by
  obtain ⟨i, hi, rfl⟩ := List.getElem_of_mem he
  exact ⟨i, hi, rfl, h.sequence_getElem hi⟩

/-- The head after `k + 1` entries is the hash of the entry numbered `n + k`. -/
theorem headFrom_take_succ {d : δ} {es : List ε} {k : ℕ} (hk : k < es.length) :
    headFrom R d (es.take (k + 1)) = R.entry es[k] := by
  rw [← List.take_append_getElem hk, headFrom_append_one]

/-- The numbers of a chain increase. -/
theorem LinkedFrom.pairwise_lt {n : ℕ} {d : δ} {es : List ε} (h : LinkedFrom R n d es) :
    es.Pairwise fun e f => R.sequence e < R.sequence f := by
  have hmap : (es.map R.sequence).Pairwise (· < ·) := by
    rw [h.sequences]
    exact List.pairwise_lt_range'
  exact List.pairwise_map.mp hmap

/-- No two entries of a chain share a number. -/
theorem LinkedFrom.nodup {n : ℕ} {d : δ} {es : List ε} (h : LinkedFrom R n d es) :
    (es.map R.sequence).Nodup := by
  rw [h.sequences]
  exact List.nodup_range'

/-- The entries numbered below `n + k` are the first `k`. -/
theorem LinkedFrom.filter_lt {n : ℕ} {d : δ} {es : List ε} (h : LinkedFrom R n d es) (k : ℕ) :
    es.filter (fun e => R.sequence e < n + k) = es.take k := by
  induction es generalizing n d k with
  | nil => simp
  | cons e es ih =>
    cases k with
    | zero =>
      refine List.filter_eq_nil_iff.mpr fun x hx => ?_
      obtain ⟨i, -, -, hi⟩ := h.exists_getElem hx
      simp [hi]
    | succ k =>
      obtain ⟨⟨hseq, _⟩, hrest⟩ := h
      have hnext : n + (k + 1) = n + 1 + k := by omega
      rw [List.take_succ_cons, List.filter_cons_of_pos (by simp [hseq]), hnext, ih hrest]

theorem headFrom_eq_getLast? (d : δ) (es : List ε) :
    headFrom R d es = (es.getLast?.map R.entry).getD d := by
  rcases List.eq_nil_or_concat es with rfl | ⟨es, e, rfl⟩
  · rfl
  · simp

/-- The last number of a chain is followed by its length, counted from the first. -/
theorem LinkedFrom.sequence_getLast? {n : ℕ} {d : δ} {es : List ε} (h : LinkedFrom R n d es)
    {e : ε} (he : es.getLast? = some e) : R.sequence e + 1 = n + es.length := by
  rcases List.eq_nil_or_concat es with rfl | ⟨es, f, rfl⟩
  · cases he
  · rw [List.concat_eq_append] at he h ⊢
    obtain rfl : f = e := by simpa using he
    rw [(linkedFrom_append_one.mp h).2.1, List.length_append, List.length_singleton]
    omega

/-! ## Commitment -/

/-- **The head commits to the chain.**  Chains of one length that end in one head have the same
    contents, given that the digest tells the contents of their entries apart and the contents
    include the predecessor's hash. -/
theorem contents_eq_of_head_eq {content : ε → γ} {n : ℕ} {d d' : δ} {es fs : List ε}
    (he : LinkedFrom R n d es) (hf : LinkedFrom R n d' fs) (hlen : es.length = fs.length)
    (hhead : headFrom R d es = headFrom R d' fs)
    (hdigest : ∀ e ∈ es, ∀ f ∈ fs, R.digest e = R.digest f → content e = content f)
    (hprevious : ∀ e f, content e = content f → R.previous e = R.previous f) :
    es.map content = fs.map content := by
  -- backwards from the head: equal hashes give equal contents, and with them the hash before
  induction es using List.reverseRecOn generalizing fs with
  | nil =>
    obtain rfl : fs = [] := List.length_eq_zero_iff.mp hlen.symm
    rfl
  | append_singleton es e ih =>
    rcases List.eq_nil_or_concat fs with rfl | ⟨fs, f, rfl⟩
    · simp at hlen
    · simp only [List.concat_eq_append] at *
      obtain ⟨hes, _, hpe, hde⟩ := linkedFrom_append_one.mp he
      obtain ⟨hfs, _, hpf, hdf⟩ := linkedFrom_append_one.mp hf
      have hlast : content e = content f := by
        rw [headFrom_append_one, headFrom_append_one, hde, hdf] at hhead
        exact hdigest e (by simp) f (by simp) hhead
      have hbefore : headFrom R d es = headFrom R d' fs := by
        rw [← hpe, ← hpf]
        exact hprevious e f hlast
      have hrest := ih hes hfs (by simpa using hlen) hbefore fun x hx y hy =>
        hdigest x (by simp [hx]) y (by simp [hy])
      rw [List.map_append, List.map_append, hrest, List.map_singleton, List.map_singleton, hlast]

/-- The head tells how long the chain is: the last contents include the last number, and no entry
    hashes to the value the chains begin with. -/
theorem length_eq_of_head_eq {content : ε → γ} {n : ℕ} {d : δ} {es fs : List ε}
    (he : LinkedFrom R n d es) (hf : LinkedFrom R n d fs)
    (hhead : headFrom R d es = headFrom R d fs)
    (hdigest : ∀ e ∈ es, ∀ f ∈ fs, R.digest e = R.digest f → content e = content f)
    (hsequence : ∀ e f, content e = content f → R.sequence e = R.sequence f)
    (hfresh : ∀ e ∈ es ++ fs, R.digest e ≠ d) : es.length = fs.length := by
  rcases List.eq_nil_or_concat es with rfl | ⟨es, e, rfl⟩ <;>
    rcases List.eq_nil_or_concat fs with rfl | ⟨fs, f, rfl⟩ <;>
      simp only [List.concat_eq_append, headFrom_nil, headFrom_append_one] at *
  · -- an empty chain ends in `d`, which no entry hashes to
    have hlast := (linkedFrom_append_one.mp hf).2.2.2
    exact absurd (hlast.symm.trans hhead.symm) (hfresh f (by simp))
  · have hlast := (linkedFrom_append_one.mp he).2.2.2
    exact absurd (hlast.symm.trans hhead) (hfresh e (by simp))
  · obtain ⟨-, hse, -, hde⟩ := linkedFrom_append_one.mp he
    obtain ⟨-, hsf, -, hdf⟩ := linkedFrom_append_one.mp hf
    rw [hde, hdf] at hhead
    have hcontent := hdigest e (by simp) f (by simp) hhead
    have hnumber := hsequence e f hcontent
    rw [hse, hsf] at hnumber
    simp only [List.length_append, List.length_singleton]
    omega

end AEControl.HashChain
