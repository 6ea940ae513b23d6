import Mathlib.Data.List.Chain
import Mathlib.Data.List.SplitBy
import Mathlib.Order.Defs.LinearOrder

/-!
# Cutting a list by a key

Two ways to cut a list into consecutive groups.

* `runs key l`: the maximal runs of neighbours that have one key.  A list that grows at its
  end extends the last run or starts a new one (`runs_concat_same`, `runs_concat_other`).
* `classes key l`: the elements with key 0, those with key 1 and so on, without the empty
  classes.

For a key that never decreases along the list the two are the same (`classes_eq_runs`).
-/

namespace Runs

variable {α : Type*}

section Runs

variable {κ : Type*} [DecidableEq κ] {key : α → κ}

/-- The maximal runs of neighbours with one key. -/
def runs (key : α → κ) (l : List α) : List (List α) :=
  l.splitBy fun a b => key a == key b

variable {l : List α} {gs : List (List α)}

theorem runs_eq_iff :
    runs key l = gs ↔ l = gs.flatten ∧ [] ∉ gs ∧ (∀ g ∈ gs, g.IsChain fun a b => key a = key b) ∧
      gs.IsChain fun g g' => ∃ h h', key (g.getLast h) ≠ key (g'.head h') := by
  simp only [runs, List.splitBy_eq_iff, beq_iff_eq, beq_eq_false_iff_ne]

@[simp] theorem runs_singleton (a : α) : runs key [a] = [[a]] := rfl

variable {g : List α} {a b : α}

/-- A run has one key. -/
theorem key_eq_of_mem_runs (h : g ∈ runs key l) (ha : a ∈ g) (hb : b ∈ g) : key a = key b := by
  have hrun : g.IsChain fun a b => key a = key b := (runs_eq_iff.mp rfl).2.2.1 g h
  have : Trans (fun a b : α => key a = key b) (fun a b => key a = key b)
      (fun a b => key a = key b) := ⟨Eq.trans⟩
  have : Std.Symm fun a b : α => key a = key b := ⟨fun _ _ => Eq.symm⟩
  exact List.Pairwise.forall_of_forall (R := fun a b : α => key a = key b) (fun _ _ => rfl)
    hrun.pairwise ha hb

/-- A new element with the key of the last one extends the last run. -/
theorem runs_concat_same (h : runs key l = gs ++ [g]) (hlast : g.getLast? = some b)
    (hkey : key b = key a) : runs key (l ++ [a]) = gs ++ [g ++ [a]] := by
  obtain ⟨hflat, hnil, hrun, hcut⟩ := runs_eq_iff.mp h
  have hne : g ≠ [] := by
    rintro rfl
    exact absurd hlast (by simp)
  refine runs_eq_iff.mpr ⟨?_, ?_, ?_, ?_⟩
  · simp [hflat]
  · simp only [List.mem_append, List.mem_singleton, not_or] at hnil ⊢
    exact ⟨hnil.1, by simp⟩
  · intro g' mem
    obtain mem | mem := List.mem_append.mp mem
    · exact hrun g' (List.mem_append_left _ mem)
    · rw [List.mem_singleton.mp mem]
      refine List.isChain_append.mpr ⟨hrun g (by simp), .singleton a, ?_⟩
      intro x hx y hy
      rw [hlast, Option.mem_some_iff] at hx
      rw [List.head?_singleton, Option.mem_some_iff] at hy
      rw [← hx, ← hy, hkey]
  · obtain ⟨hbefore, -, hjoin⟩ := List.isChain_append.mp hcut
    refine List.isChain_append.mpr ⟨hbefore, .singleton _, ?_⟩
    intro x hx y hy
    rw [List.head?_singleton, Option.mem_some_iff] at hy
    obtain ⟨hx', hg, hdiff⟩ := hjoin x hx g rfl
    subst hy
    refine ⟨hx', by simp, ?_⟩
    rwa [List.head_append_left hne]

/-- A change of the key cuts. -/
theorem runs_append_other {m : List α} (hlast : l.getLast? = some b) (hkey : key b ≠ key a) :
    runs key (l ++ a :: m) = runs key l ++ runs key (a :: m) := by
  refine List.splitBy_append fun x hx y hy => ?_
  rw [hlast, Option.mem_some_iff] at hx
  rw [List.head?_cons, Option.mem_some_iff] at hy
  subst hx hy
  exact beq_eq_false_iff_ne.mpr hkey

/-- A new element with another key than the last one starts a run. -/
theorem runs_concat_other (h : runs key l = gs ++ [g]) (hlast : g.getLast? = some b)
    (hkey : key b ≠ key a) : runs key (l ++ [a]) = gs ++ [g] ++ [[a]] := by
  have hend : l.getLast? = some b := by
    rw [(runs_eq_iff.mp h).1]
    simp [hlast]
  rw [← h, runs_append_other hend hkey, runs_singleton]

/-- The runs of a list that starts with elements of one key: the first run extends them. -/
theorem runs_append_of_const (m : List α) (hne : l ≠ [])
    (hconst : ∀ a ∈ l, ∀ b ∈ l, key a = key b) : ∃ g gs, runs key (l ++ m) = (l ++ g) :: gs := by
  induction m using List.reverseRecOn with
  | nil =>
    refine ⟨[], [], ?_⟩
    rw [List.append_nil]
    refine List.splitBy_of_isChain hne ?_
    refine (List.pairwise_of_forall_mem_list fun a ha b hb => ?_).isChain
    exact beq_iff_eq.mpr (hconst a ha b hb)
  | append_singleton m a ih =>
    obtain ⟨g, gs, hruns⟩ := ih
    rw [← List.append_assoc]
    obtain rfl | ⟨gs, last, rfl⟩ := gs.eq_nil_or_concat'
    · -- The first run is the last one.
      have honly : runs key (l ++ m) = [] ++ [l ++ g] := hruns
      have hend : (l ++ g).getLast? = some ((l ++ g).getLast (by simp [hne])) :=
        List.getLast?_eq_some_getLast _
      by_cases hkey : key ((l ++ g).getLast (by simp [hne])) = key a
      · refine ⟨g ++ [a], [], ?_⟩
        rw [runs_concat_same honly hend hkey, List.nil_append, List.append_assoc]
      · exact ⟨g, [[a]], runs_concat_other honly hend hkey⟩
    · have hlast : last ≠ [] := by
        rintro rfl
        exact (runs_eq_iff.mp hruns).2.1 (by simp)
      have hend : last.getLast? = some (last.getLast hlast) := List.getLast?_eq_some_getLast _
      rw [← List.cons_append] at hruns
      by_cases hkey : key (last.getLast hlast) = key a
      · exact ⟨g, gs ++ [last ++ [a]], runs_concat_same hruns hend hkey⟩
      · refine ⟨g, gs ++ [last] ++ [[a]], ?_⟩
        rw [runs_concat_other hruns hend hkey, List.append_assoc, List.append_assoc,
          List.cons_append]

end Runs

section Classes

variable {key : α → ℕ}

/-- The non-empty classes of the elements with key 0, 1, 2 and so on. -/
def classes (key : α → ℕ) (l : List α) : List (List α) :=
  ((List.range ((l.map key).foldr max 0 + 1)).map fun k => l.filter (key · = k)).filter
    (!·.isEmpty)

variable {l : List α}

theorem key_le_foldr_max {a : α} (h : a ∈ l) : key a ≤ (l.map key).foldr max 0 := by
  induction l with
  | nil => exact absurd h List.not_mem_nil
  | cons b l ih =>
    rw [List.map_cons, List.foldr_cons]
    obtain rfl | h := List.mem_cons.mp h
    · exact le_max_left ..
    · exact (ih h).trans (le_max_right ..)

/-- Along a list ordered by the key, the elements below `n + 1` are those below `n` and
then those at `n`. -/
theorem filter_lt_succ (h : l.Pairwise fun a b => key a ≤ key b) (n : ℕ) :
    l.filter (key · < n + 1) = l.filter (key · < n) ++ l.filter (key · = n) := by
  induction l with
  | nil => rfl
  | cons a l ih =>
    obtain ⟨hhead, htail⟩ := List.pairwise_cons.mp h
    obtain hlt | heq | hgt := lt_trichotomy (key a) n
    · rw [List.filter_cons_of_pos (by simp; omega), List.filter_cons_of_pos (by simp; omega),
        List.filter_cons_of_neg (by simp; omega), ih htail, List.cons_append]
    · have hnone : l.filter (key · < n) = [] := by
        refine List.filter_eq_nil_iff.mpr fun b mem => ?_
        have hle := hhead b mem
        simp only [decide_eq_true_eq]
        omega
      rw [List.filter_cons_of_pos (by simp; omega), List.filter_cons_of_neg (by simp; omega),
        List.filter_cons_of_pos (by simp; omega), ih htail, hnone, List.nil_append,
        List.nil_append]
    · rw [List.filter_cons_of_neg (by simp; omega), List.filter_cons_of_neg (by simp; omega),
        List.filter_cons_of_neg (by simp; omega), ih htail]

theorem flatten_classes (h : l.Pairwise fun a b => key a ≤ key b) :
    (classes key l).flatten = l := by
  have hupto : ∀ n, ((List.range n).map fun k => l.filter (key · = k)).flatten =
      l.filter (key · < n) := by
    intro n
    induction n with
    | zero => simp
    | succ n ih =>
      rw [List.range_succ, List.map_append, List.flatten_append, ih, filter_lt_succ h]
      simp
  rw [classes, List.flatten_filter_not_isEmpty, hupto]
  refine List.filter_eq_self.mpr fun a mem => ?_
  exact decide_eq_true (Nat.lt_succ_of_le (key_le_foldr_max mem))

theorem classes_pairwise (key : α → ℕ) (l : List α) :
    (classes key l).Pairwise fun g g' => ∀ a ∈ g, ∀ b ∈ g', key a < key b := by
  refine List.Pairwise.filter _ (List.pairwise_map.mpr ?_)
  refine List.pairwise_lt_range.imp fun hlt a ha b hb => ?_
  rw [of_decide_eq_true (List.mem_filter.mp ha).2, of_decide_eq_true (List.mem_filter.mp hb).2]
  exact hlt

/-- **For a key that never decreases, the classes are the runs.** -/
theorem classes_eq_runs (h : l.Pairwise fun a b => key a ≤ key b) : classes key l = runs key l := by
  have hne : ∀ g ∈ classes key l, g ≠ [] := by
    intro g mem
    simpa using (List.mem_filter.mp mem).2
  refine (runs_eq_iff.mpr ⟨(flatten_classes h).symm, fun mem => hne [] mem rfl, ?_, ?_⟩).symm
  · intro g mem
    obtain ⟨k, -, rfl⟩ := List.mem_map.mp (List.mem_filter.mp mem).1
    refine (List.pairwise_of_forall_mem_list fun a ha b hb => ?_).isChain
    rw [of_decide_eq_true (List.mem_filter.mp ha).2, of_decide_eq_true (List.mem_filter.mp hb).2]
  · refine ((classes_pairwise key l).imp_of_mem fun hg hg' hlt => ?_).isChain
    exact ⟨hne _ hg, hne _ hg', (hlt _ (List.getLast_mem _) _ (List.head_mem _)).ne⟩

end Classes

end Runs
