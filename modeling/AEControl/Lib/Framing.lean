/-
  Byte strings framed by their length: a big-endian size of fixed width, then the bytes.

  A framed string is read off the front of whatever follows it (`frame_append_inj`), because the
  size says where it ends, so the bytes of a string may look like sizes and further frames.  A
  sequence of frames is told apart from every other one (`frames_inj`).
-/
import Mathlib.Data.List.Basic
import Mathlib.Data.Nat.Basic
import Mathlib.Tactic.Ring

namespace AEControl.Framing

/-- `n.to_bytes(width, "big")` of a number that fits. -/
def bigEndian : ℕ → ℕ → List ℕ
  | 0, _ => []
  | width + 1, n => n / 256 ^ width % 256 :: bigEndian width n

@[simp] theorem length_bigEndian (width n : ℕ) : (bigEndian width n).length = width := by
  induction width with
  | zero => rfl
  | succ width ih => rw [bigEndian, List.length_cons, ih]

/-- The digits determine a number up to what is above them. -/
theorem mod_eq_of_bigEndian_eq {width m n : ℕ} (h : bigEndian width m = bigEndian width n) :
    m % 256 ^ width = n % 256 ^ width := by
  induction width with
  | zero => simp [Nat.mod_one]
  | succ width ih =>
    obtain ⟨hdigit, hrest⟩ := List.cons.inj h
    have hlow := ih hrest
    rw [Nat.pow_succ, Nat.mod_mul, Nat.mod_mul, hlow, hdigit]

theorem bigEndian_inj {width m n : ℕ} (hm : m < 256 ^ width) (hn : n < 256 ^ width)
    (h : bigEndian width m = bigEndian width n) : m = n := by
  have hmod := mod_eq_of_bigEndian_eq h
  rwa [Nat.mod_eq_of_lt hm, Nat.mod_eq_of_lt hn] at hmod

/-- A string behind its length. -/
def frame (width : ℕ) (bytes : List ℕ) : List ℕ := bigEndian width bytes.length ++ bytes

/-- **A frame is read off the front.** -/
theorem frame_append_inj {width : ℕ} {x y s t : List ℕ} (hx : x.length < 256 ^ width)
    (hy : y.length < 256 ^ width) (h : frame width x ++ s = frame width y ++ t) :
    x = y ∧ s = t := by
  unfold frame at h
  rw [List.append_assoc, List.append_assoc] at h
  obtain ⟨hsize, hrest⟩ := List.append_inj h (by rw [length_bigEndian, length_bigEndian])
  exact List.append_inj hrest (bigEndian_inj hx hy hsize)

/-- A sequence of frames. -/
def frames (width : ℕ) (strings : List (List ℕ)) : List ℕ := strings.flatMap (frame width)

@[simp] theorem frames_nil (width : ℕ) : frames width [] = [] := rfl

@[simp] theorem frames_cons (width : ℕ) (x : List ℕ) (xs : List (List ℕ)) :
    frames width (x :: xs) = frame width x ++ frames width xs := rfl

theorem frames_append (width : ℕ) (xs ys : List (List ℕ)) :
    frames width (xs ++ ys) = frames width xs ++ frames width ys := List.flatMap_append

theorem frame_append_ne_nil {width : ℕ} (hwidth : 0 < width) (x s : List ℕ) :
    frame width x ++ s ≠ [] := by
  intro h
  have hlen := congrArg List.length h
  simp only [frame, List.length_append, length_bigEndian, List.length_nil] at hlen
  omega

/-- **Sequences of frames are unambiguous.** -/
theorem frames_inj {width : ℕ} (hwidth : 0 < width) {xs ys : List (List ℕ)}
    (hxs : ∀ x ∈ xs, x.length < 256 ^ width) (hys : ∀ y ∈ ys, y.length < 256 ^ width)
    (h : frames width xs = frames width ys) : xs = ys := by
  induction xs generalizing ys with
  | nil =>
    cases ys with
    | nil => rfl
    | cons y ys => exact absurd h.symm (frame_append_ne_nil hwidth y _)
  | cons x xs ih =>
    cases ys with
    | nil => exact absurd h (frame_append_ne_nil hwidth x _)
    | cons y ys =>
      obtain ⟨hx, hxs⟩ := List.forall_mem_cons.mp hxs
      obtain ⟨hy, hys⟩ := List.forall_mem_cons.mp hys
      rw [frames_cons, frames_cons] at h
      obtain ⟨hxy, hrest⟩ := frame_append_inj hx hy h
      rw [hxy, ih hxs hys hrest]

end AEControl.Framing
