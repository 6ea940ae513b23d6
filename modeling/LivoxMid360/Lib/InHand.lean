import Mathlib.Algebra.BigOperators.Group.Finset.Basic
import Mathlib.Algebra.Order.BigOperators.Group.Finset

/-!
# What the threads have in hand

A counter that several threads keep is behind, or ahead of, what they have done by what
each of them has done and not written down yet.  `InHand f pc n` says that `n` is the sum
over all threads of what `f` gives for the place where a thread is; all but finitely many
give nothing.  A step of one thread changes the sum by the difference at that thread
(`InHand.update`), so an equation between counters and such sums is kept by a step that
keeps it for the thread alone.
-/

namespace Concurrent

variable {ι S : Type*}

/-- The sum of `f` over the places of all threads is `n`. -/
def InHand (f : S → ℕ) (pc : ι → S) (n : ℕ) : Prop :=
  ∃ s : Finset ι, (∀ t ∉ s, f (pc t) = 0) ∧ ∑ t ∈ s, f (pc t) = n

namespace InHand

variable {f : S → ℕ} {pc : ι → S} {n : ℕ}

/-- Nobody has anything in hand. -/
theorem zero (h : ∀ t, f (pc t) = 0) : InHand f pc 0 :=
  ⟨∅, fun t _ => h t, Finset.sum_empty⟩

theorem eq_zero (hsum : InHand f pc n) (h : ∀ t, f (pc t) = 0) : n = 0 := by
  obtain ⟨s, -, rfl⟩ := hsum
  exact Finset.sum_eq_zero fun t _ => h t

/-- **A step of one thread.** -/
theorem update [DecidableEq ι] (hsum : InHand f pc n) (t : ι) (l : S) :
    ∃ n', InHand f (Function.update pc t l) n' ∧ n' + f (pc t) = n + f l := by
  obtain ⟨s, hout, rfl⟩ := hsum
  have hothers : ∀ u ∈ s.erase t, f (Function.update pc t l u) = f (pc u) := by
    intro u hu
    rw [Function.update_of_ne (Finset.ne_of_mem_erase hu)]
  have hbefore : ∑ u ∈ s, f (pc u) = ∑ u ∈ s.erase t, f (pc u) + f (pc t) := by
    by_cases ht : t ∈ s
    · exact (Finset.sum_erase_add s _ ht).symm
    · rw [Finset.erase_eq_of_notMem ht, hout t ht, add_zero]
  refine ⟨_, ⟨insert t (s.erase t), ?_, rfl⟩, ?_⟩
  · intro u hu
    rw [Finset.mem_insert, Finset.mem_erase, not_or, not_and] at hu
    rw [Function.update_of_ne hu.1]
    exact hout u (hu.2 hu.1)
  · rw [Finset.sum_insert (Finset.notMem_erase t s), Finset.sum_congr rfl hothers,
      Function.update_self, hbefore]
    omega

end InHand

end Concurrent
