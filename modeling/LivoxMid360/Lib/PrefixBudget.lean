import Mathlib.Algebra.GroupWithZero.Nat
import Mathlib.Data.List.Basic

/-!
# Prefixes within a budget

Elements arrive one after another, each with a cost, and are kept as long as the budget
lasts; the first one that does not fit ends it, also when a later, cheaper one would fit.
What is kept is a prefix, and it is the longest one that the budget covers.

* `keep` is the process, one element after another.
* `Longest` says what it is for: a prefix within the budget that has every other such
  prefix as a prefix.  `keep_longest` connects the two.
-/

namespace PrefixBudget

variable {α : Type*} (cost : α → ℕ)

/-- The cost of a list. -/
def total (xs : List α) : ℕ :=
  (xs.map cost).sum

@[simp] theorem total_nil : total cost [] = 0 := rfl

@[simp] theorem total_cons (x : α) (xs : List α) :
    total cost (x :: xs) = cost x + total cost xs := by
  simp [total]

/-- The elements kept until one does not fit into what is left of the budget. -/
def keep (budget : ℕ) : List α → List α
  | [] => []
  | x :: xs => if cost x ≤ budget then x :: keep (budget - cost x) xs else []

/-- `kept` is the longest prefix of `all` within the budget. -/
structure Longest (budget : ℕ) (all kept : List α) : Prop where
  isPrefix : kept <+: all
  fits : total cost kept ≤ budget
  longest : ∀ other, other <+: all → total cost other ≤ budget → other <+: kept

variable {cost}

variable {budget : ℕ}

/-- Without budget for the first element, nothing is kept. -/
theorem Longest.of_lt {x : α} (h : budget < cost x) (xs : List α) :
    Longest cost budget (x :: xs) [] where
  isPrefix := List.nil_prefix
  fits := Nat.zero_le _
  longest other hprefix hfits := by
    cases other with
    | nil => exact List.prefix_rfl
    | cons =>
      obtain ⟨rfl, -⟩ := List.cons_prefix_cons.mp hprefix
      rw [total_cons] at hfits
      omega

/-- A first element that fits is kept, and the rest shares what is left. -/
theorem Longest.cons {x : α} (h : cost x ≤ budget) {xs kept : List α}
    (hrest : Longest cost (budget - cost x) xs kept) :
    Longest cost budget (x :: xs) (x :: kept) where
  isPrefix := List.cons_prefix_cons.mpr ⟨rfl, hrest.isPrefix⟩
  fits := by
    have hkept := hrest.fits
    rw [total_cons]
    omega
  longest other hprefix hfits := by
    cases other with
    | nil => exact List.nil_prefix
    | cons y ys =>
      obtain ⟨rfl, hys⟩ := List.cons_prefix_cons.mp hprefix
      rw [total_cons] at hfits
      exact List.cons_prefix_cons.mpr ⟨rfl, hrest.longest ys hys (by omega)⟩

/-- **The process keeps the longest prefix.** -/
theorem keep_longest (budget : ℕ) (all : List α) :
    Longest cost budget all (keep cost budget all) := by
  induction all generalizing budget with
  | nil => exact ⟨List.prefix_rfl, Nat.zero_le _, fun _ h _ => h⟩
  | cons x xs ih =>
    rw [keep]
    split_ifs with hfits
    · exact (ih (budget - cost x)).cons hfits
    · exact Longest.of_lt (Nat.lt_of_not_le hfits) xs

/-- Everything is kept when the budget covers everything. -/
theorem keep_of_total_le {all : List α} (h : total cost all ≤ budget) :
    keep cost budget all = all := by
  have hkept : Longest cost budget all (keep cost budget all) := keep_longest budget all
  exact hkept.isPrefix.eq_of_length_le (hkept.longest all List.prefix_rfl h).length_le

end PrefixBudget
