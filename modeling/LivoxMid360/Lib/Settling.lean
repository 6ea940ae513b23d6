import Mathlib.Data.List.Basic
import Mathlib.Data.Nat.Notation

/-!
# Systems that settle

A system takes one step for every input.  A rank counts the inputs it is still waiting for:
no step raises it, and a step that is due lowers it while it is positive.  A system of rank 0
has settled.

`Settles` states the two conditions under an invariant.  `Settles.settled` is the outcome:
when as many steps have been due as the rank was high, the system has settled, and it stays
settled whatever steps follow.
-/

namespace Settling

variable {σ τ : Type*} (step : σ → τ → σ) (due : σ → τ → Prop) (inv : σ → Prop) (rank : σ → ℕ)

/-- The rank is never raised, and it is lowered by a step that is due. -/
structure Settles : Prop where
  keeps : ∀ s t, inv s → inv (step s t)
  le : ∀ s t, inv s → rank (step s t) ≤ rank s
  lt : ∀ s t, inv s → due s t → 0 < rank s → rank (step s t) < rank s

/-- Every step is due at its turn. -/
def AllDue : σ → List τ → Prop
  | _, [] => True
  | s, t :: ts => due s t ∧ AllDue (step s t) ts

variable {step due inv rank} {s : σ}

variable (h : Settles step due inv rank) (hs : inv s)

include h hs

theorem Settles.keeps_foldl (ts : List τ) : inv (ts.foldl step s) := by
  induction ts generalizing s with
  | nil => exact hs
  | cons t ts ih => exact ih (h.keeps s t hs)

/-- No list of steps raises the rank. -/
theorem Settles.rank_foldl_le (ts : List τ) : rank (ts.foldl step s) ≤ rank s := by
  induction ts generalizing s with
  | nil => exact Nat.le_refl _
  | cons t ts ih => exact Nat.le_trans (ih (h.keeps s t hs)) (h.le s t hs)

/-- Steps that are due take the rank down to 0. -/
theorem Settles.rank_foldl_eq_zero {ts : List τ} (hdue : AllDue step due s ts)
    (henough : rank s ≤ ts.length) : rank (ts.foldl step s) = 0 := by
  induction ts generalizing s with
  | nil => exact Nat.le_zero.mp henough
  | cons t ts ih =>
    rw [List.length_cons] at henough
    refine ih (h.keeps s t hs) hdue.2 ?_
    by_cases hzero : rank s = 0
    · have hle := h.le s t hs
      omega
    · have hless := h.lt s t hs hdue.1 (Nat.pos_of_ne_zero hzero)
      omega

/-- **A system settles**, and stays settled. -/
theorem Settles.settled {ts : List τ} (hdue : AllDue step due s ts) (henough : rank s ≤ ts.length)
    (later : List τ) : rank ((ts ++ later).foldl step s) = 0 := by
  rw [List.foldl_append]
  have hrest := h.rank_foldl_le (h.keeps_foldl hs ts) later
  rw [h.rank_foldl_eq_zero hs hdue henough] at hrest
  exact Nat.le_zero.mp hrest

end Settling
