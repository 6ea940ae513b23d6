import Mathlib.Data.List.ReduceOption

/-!
# Values that change

A component that is told a value now and then, keeps the last one and reports every
change.  What it is told is a list of optional values; `first` and `latest` are the first
and the last of those that are present.

* `Chain s es t`: the reported changes `es`, each an old and a new value, lead from `s` to
  `t`, and each is a change.
* `Recorded xs es`: the changes `es` are a chain from the first to the latest value of `xs`;
  there are none before the first value.
* `Chain.report` and `Recorded.report` are the steps: comparing the new value with the one
  kept and reporting a difference extends the chain.
-/

namespace ChangeLog

variable {σ : Type*}

variable (xs : List (Option σ))

/-- The first value that is present. -/
def first : Option σ :=
  xs.reduceOption.head?

/-- The last value that is present. -/
def latest : Option σ :=
  xs.reduceOption.getLast?

theorem first_concat (x : Option σ) : first (xs ++ [x]) = (first xs).or x := by
  rw [first, first, List.reduceOption_append, List.head?_append]
  cases x <;> rfl

theorem latest_concat (x : Option σ) : latest (xs ++ [x]) = x.or (latest xs) := by
  rw [latest, latest, List.reduceOption_append, List.getLast?_append]
  cases x <;> rfl

theorem mem_of_latest {xs : List (Option σ)} {x : σ} (h : latest xs = some x) : some x ∈ xs :=
  List.reduceOption_mem_iff.mp (List.mem_of_getLast? h)

/-- There is a first value exactly when there is a last one. -/
theorem first_eq_none_iff : first xs = none ↔ latest xs = none := by
  rw [first, latest, List.head?_eq_none_iff, List.getLast?_eq_none_iff]

/-- The changes `es` lead from `s` to `t`. -/
def Chain : σ → List (σ × σ) → σ → Prop
  | s, [], t => s = t
  | s, e :: es, t => e.1 = s ∧ e.1 ≠ e.2 ∧ Chain e.2 es t

theorem Chain.append {s t u : σ} {es es' : List (σ × σ)} (h : Chain s es t)
    (h' : Chain t es' u) : Chain s (es ++ es') u := by
  induction es generalizing s with
  | nil =>
    obtain rfl : s = t := h
    exact h'
  | cons e es ih => exact ⟨h.1, h.2.1, ih h.2.2⟩

theorem Chain.concat {s t u : σ} {es : List (σ × σ)} (h : Chain s es t) (hne : t ≠ u) :
    Chain s (es ++ [(t, u)]) u :=
  h.append ⟨rfl, hne, rfl⟩

section Report

variable [DecidableEq σ]

/-- The report of a new value: a change, or nothing. -/
def report (old new : σ) : List (σ × σ) :=
  if old = new then [] else [(old, new)]

theorem Chain.report {s t : σ} {es : List (σ × σ)} (h : Chain s es t) (u : σ) :
    Chain s (es ++ report t u) u := by
  unfold ChangeLog.report
  split
  · rename_i heq
    rw [List.append_nil]
    exact heq ▸ h
  · rename_i hne
    exact h.concat hne

/-- The report when there may be no value yet. -/
def reportSome : Option σ → Option σ → List (σ × σ)
  | some old, some new => report old new
  | _, _ => []

/-- The changes `es` are those of the values `xs`. -/
def Recorded (xs : List (Option σ)) (es : List (σ × σ)) : Prop :=
  match first xs, latest xs with
  | some s, some t => Chain s es t
  | _, _ => es = []

/-- One more value. -/
theorem Recorded.report {xs : List (Option σ)} {es : List (σ × σ)} (h : Recorded xs es)
    (x : Option σ) : Recorded (xs ++ [x]) (es ++ reportSome (latest xs) (x.or (latest xs))) := by
  have hboth := first_eq_none_iff xs
  unfold Recorded at h ⊢
  rw [first_concat, latest_concat]
  cases hlatest : latest xs with
  | none =>
    rw [hboth.mpr hlatest, hlatest] at h
    obtain rfl : es = [] := h
    rw [hboth.mpr hlatest]
    cases x <;> rfl
  | some =>
    cases hfirst : first xs with
    | none => exact absurd (hboth.mp hfirst) (by simp [hlatest])
    | some =>
      rw [hfirst, hlatest] at h
      cases x with
      | none => simpa [reportSome, ChangeLog.report] using h
      | some u => exact Chain.report h u

end Report

end ChangeLog
