import Mathlib.Algebra.Order.Group.Int
import Mathlib.Data.List.Nodup
import Mathlib.Data.List.Perm.Basic
import Mathlib.Tactic.Common

/-!
# High-water marks

Numbers arrive in some order, with gaps, duplicates and stragglers.  `mark m arrivals` is
the highest number once they have come, when `m` was the highest before.  `raises` are the
arrivals that raised the mark, in the order in which they came; they ascend
(`raises_pairwise`) from `m` to the mark (`mem_raises`).

The numbers that the mark passed without one of them arriving as its new value are
`missed`, each listed once (`mem_missed`, `missed_nodup`), and `length_missed` counts them.
-/

namespace HighWater

/-- The higher of the mark and an arrival. -/
def raise (m s : ℤ) : ℤ :=
  if m < s then s else m

/-- The highest number seen once the arrivals have come. -/
def mark (m : ℤ) (arrivals : List ℤ) : ℤ :=
  arrivals.foldl raise m

/-- The arrivals that raised the mark. -/
def raises (m : ℤ) : List ℤ → List ℤ
  | [] => []
  | s :: arrivals => if m < s then s :: raises s arrivals else raises m arrivals

/-- The numbers above `m` up to the mark. -/
def passed (m : ℤ) (arrivals : List ℤ) : List ℤ :=
  (List.range (mark m arrivals - m).toNat).map fun i : ℕ => m + 1 + (i : ℤ)

/-- Those of them that never were the new value of the mark. -/
def missed (m : ℤ) (arrivals : List ℤ) : List ℤ :=
  (passed m arrivals).filter (· ∉ raises m arrivals)

variable {m s : ℤ} {arrivals : List ℤ}

theorem raise_of_lt (h : m < s) : raise m s = s :=
  if_pos h

theorem raise_of_le (h : s ≤ m) : raise m s = m :=
  if_neg (not_lt.mpr h)

theorem le_raise (m s : ℤ) : m ≤ raise m s := by
  rcases lt_or_ge m s with h | h
  · rw [raise_of_lt h]
    exact h.le
  · rw [raise_of_le h]

@[simp] theorem mark_nil : mark m [] = m := rfl

@[simp] theorem mark_cons : mark m (s :: arrivals) = mark (raise m s) arrivals := rfl

theorem le_mark (m : ℤ) (arrivals : List ℤ) : m ≤ mark m arrivals := by
  induction arrivals generalizing m with
  | nil => exact le_refl m
  | cons s arrivals ih => exact (le_raise m s).trans (ih (raise m s))

/-- An arrival above the mark raises it to its own number. -/
theorem raises_cons_of_lt (h : m < s) : raises m (s :: arrivals) = s :: raises s arrivals :=
  if_pos h

theorem raises_cons_of_le (h : s ≤ m) : raises m (s :: arrivals) = raises m arrivals :=
  if_neg (not_lt.mpr h)

theorem raises_append (pre post : List ℤ) :
    raises m (pre ++ post) = raises m pre ++ raises (mark m pre) post := by
  induction pre generalizing m with
  | nil => rfl
  | cons s pre ih =>
    rcases lt_or_ge m s with h | h
    · rw [List.cons_append, raises_cons_of_lt h, raises_cons_of_lt h, ih, mark_cons,
        raise_of_lt h, List.cons_append]
    · rw [List.cons_append, raises_cons_of_le h, raises_cons_of_le h, ih, mark_cons, raise_of_le h]

/-- Arrivals that are not above the mark do not raise it. -/
theorem raises_of_forall_le (h : ∀ a ∈ arrivals, a ≤ m) : raises m arrivals = [] := by
  induction arrivals with
  | nil => rfl
  | cons s arrivals ih =>
    rw [raises_cons_of_le (h s List.mem_cons_self)]
    exact ih fun a ha => h a (List.mem_cons_of_mem s ha)

variable {a : ℤ}

/-- What raised the mark lies above the old one and not above the new one. -/
theorem mem_raises (h : a ∈ raises m arrivals) : m < a ∧ a ≤ mark m arrivals := by
  induction arrivals generalizing m with
  | nil => exact absurd h List.not_mem_nil
  | cons s arrivals ih =>
    rcases lt_or_ge m s with hs | hs
    · rw [raises_cons_of_lt hs] at h
      rw [mark_cons, raise_of_lt hs]
      rcases List.mem_cons.mp h with rfl | mem
      · exact ⟨hs, le_mark a arrivals⟩
      · obtain ⟨hlow, hhigh⟩ := ih mem
        exact ⟨hs.trans hlow, hhigh⟩
    · rw [raises_cons_of_le hs] at h
      rw [mark_cons, raise_of_le hs]
      exact ih h

theorem raises_pairwise (m : ℤ) (arrivals : List ℤ) : (raises m arrivals).Pairwise (· < ·) := by
  induction arrivals generalizing m with
  | nil => exact List.Pairwise.nil
  | cons s arrivals ih =>
    rcases lt_or_ge m s with hs | hs
    · rw [raises_cons_of_lt hs, List.pairwise_cons]
      exact ⟨fun a mem => (mem_raises mem).1, ih s⟩
    · rw [raises_cons_of_le hs]
      exact ih m

theorem mem_passed : a ∈ passed m arrivals ↔ m < a ∧ a ≤ mark m arrivals := by
  rw [passed, List.mem_map]
  constructor
  · rintro ⟨i, hi, rfl⟩
    rw [List.mem_range] at hi
    omega
  · rintro ⟨hlow, hhigh⟩
    refine ⟨(a - m - 1).toNat, ?_, ?_⟩
    · rw [List.mem_range]
      omega
    · omega

theorem passed_nodup (m : ℤ) (arrivals : List ℤ) : (passed m arrivals).Nodup := by
  refine List.Nodup.map ?_ List.nodup_range
  intro i j h
  dsimp only at h
  omega

theorem mem_missed :
    a ∈ missed m arrivals ↔ m < a ∧ a ≤ mark m arrivals ∧ a ∉ raises m arrivals := by
  rw [missed, List.mem_filter, mem_passed, decide_eq_true_iff, and_assoc]

theorem missed_nodup (m : ℤ) (arrivals : List ℤ) : (missed m arrivals).Nodup :=
  (passed_nodup m arrivals).filter _

/-- The numbers that the mark passed are those that raised it and those that were missed. -/
theorem passed_perm (m : ℤ) (arrivals : List ℤ) :
    (passed m arrivals).Perm (raises m arrivals ++ missed m arrivals) := by
  have hraises : (raises m arrivals).Nodup :=
    (raises_pairwise m arrivals).imp fun h => Int.ne_of_lt h
  have hparts : (raises m arrivals ++ missed m arrivals).Nodup :=
    List.nodup_append'.mpr
      ⟨hraises, missed_nodup m arrivals, fun a mem hmissed => (mem_missed.mp hmissed).2.2 mem⟩
  rw [List.perm_ext_iff_of_nodup (passed_nodup m arrivals) hparts]
  intro a
  rw [List.mem_append, mem_missed, mem_passed]
  by_cases mem : a ∈ raises m arrivals
  · exact iff_of_true (mem_raises mem) (.inl mem)
  · exact ⟨fun h => .inr ⟨h.1, h.2, mem⟩, fun h => (h.resolve_left mem).imp_right And.left⟩

/-- **What was missed**: the numbers the mark has passed, less those that raised it. -/
theorem length_missed (m : ℤ) (arrivals : List ℤ) :
    ((missed m arrivals).length : ℤ) = mark m arrivals - m - (raises m arrivals).length := by
  have hparts := (passed_perm m arrivals).length_eq
  have hlength : (passed m arrivals).length = (mark m arrivals - m).toNat := by
    rw [passed, List.length_map, List.length_range]
  have hle := le_mark m arrivals
  rw [List.length_append, hlength] at hparts
  omega

end HighWater
