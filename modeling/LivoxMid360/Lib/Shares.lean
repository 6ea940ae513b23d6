import Mathlib.Algebra.BigOperators.Group.Finset.Piecewise
import Mathlib.Algebra.BigOperators.Group.List.Basic
import Mathlib.Algebra.GroupWithZero.Nat

/-!
# A list divided among owners

Each element of a list belongs to one of `n` owners, or to none.  A sum over the list is
then the sum over the owners of what belongs to each, and what belongs to nobody.
-/

namespace Shares

variable {α : Type*}

/-- What belongs to an owner, or to nobody. -/
def share (owner : α → Option ℕ) (i : Option ℕ) (l : List α) : List α :=
  l.filter fun a => owner a = i

variable {owner : α → Option ℕ} {n : ℕ} {l : List α}

/-- The share of `i` of a longer list. -/
theorem sum_share_cons (w : α → ℕ) (a : α) (l : List α) (i : Option ℕ) :
    ((share owner i (a :: l)).map w).sum =
      (if owner a = i then w a else 0) + ((share owner i l).map w).sum := by
  unfold share
  split_ifs with h
  · rw [List.filter_cons_of_pos (by simpa using h), List.map_cons, List.sum_cons]
  · rw [List.filter_cons_of_neg (by simpa using h), Nat.zero_add]

/-- **The shares sum up.** -/
theorem sum_map_eq (w : α → ℕ) (howner : ∀ a ∈ l, ∀ i, owner a = some i → i < n) :
    (l.map w).sum =
      ∑ i ∈ Finset.range n, ((share owner (some i) l).map w).sum +
        ((share owner none l).map w).sum := by
  induction l with
  | nil => simp [share]
  | cons a l ih =>
    have hrest := ih fun b mem => howner b (List.mem_cons_of_mem a mem)
    have hone : ∑ i ∈ Finset.range n, (if owner a = some i then w a else 0) +
        (if owner a = none then w a else 0) = w a := by
      cases h : owner a with
      | none => simp
      | some j => simp [howner a List.mem_cons_self j h]
    simp only [sum_share_cons, Finset.sum_add_distrib]
    rw [List.map_cons, List.sum_cons, hrest]
    omega

/-- So do their sizes. -/
theorem length_eq (howner : ∀ a ∈ l, ∀ i, owner a = some i → i < n) :
    l.length =
      ∑ i ∈ Finset.range n, (share owner (some i) l).length + (share owner none l).length := by
  have hone := sum_map_eq (fun _ => 1) howner
  simpa using hone

/-- A list of numbers that is given place by place. -/
theorem sum_eq_of_getElem? {l : List ℕ} {f : ℕ → ℕ} (hlength : l.length = n)
    (h : ∀ i < n, l[i]? = some (f i)) : l.sum = ∑ i ∈ Finset.range n, f i := by
  have hmap : l = (List.range n).map f := by
    refine List.ext_getElem (by simpa using hlength) fun i hi hi' => ?_
    have hf := h i (hlength ▸ hi)
    rw [List.getElem?_eq_getElem hi, Option.some_inj] at hf
    simpa using hf
  rw [hmap]
  clear hlength h hmap
  induction n with
  | zero => rfl
  | succ n ih => rw [List.range_succ, List.map_append, List.sum_append, ih, Finset.sum_range_succ,
      List.map_singleton, List.sum_singleton]

end Shares
