import Mathlib.Data.Nat.Notation
import Mathlib.Tactic.Common

/-!
# Loops with a decreasing measure

A loop is a step function on a state: `Sum.inl s` goes round again with the state
`s`, `Sum.inr r` leaves the loop with the result `r`.  `run` iterates it with fuel.
When a measure on the state decreases every time round (`Decreases`), the measure
itself is enough fuel, and `exec` is the result: a total, executable function with
no trace of fuel in its laws.

* `exec_again` and `exec_done` unfold one turn.
* `exec_induction` is the invariant rule.

A loop that need not end is observed turn by turn: `turns` is where it has got after a
number of turns, and `turns_induction` the invariant rule for it.
-/

namespace WhileLoop

variable {σ ρ : Type*}

/-- At most `fuel` turns of a loop. -/
def run (step : σ → σ ⊕ ρ) : ℕ → σ → Option ρ
  | 0, _ => none
  | fuel + 1, s =>
    match step s with
    | .inl s' => run step fuel s'
    | .inr r => some r

/-- The measure decreases whenever the loop goes round. -/
def Decreases (step : σ → σ ⊕ ρ) (measure : σ → ℕ) : Prop :=
  ∀ s s', step s = .inl s' → measure s' < measure s

variable {step : σ → σ ⊕ ρ} {measure : σ → ℕ}

variable {s s' : σ}

theorem run_again (h : step s = .inl s') (fuel : ℕ) : run step (fuel + 1) s = run step fuel s' := by
  simp only [run, h]

variable {r : ρ}

theorem run_done (h : step s = .inr r) (fuel : ℕ) : run step (fuel + 1) s = some r := by
  simp only [run, h]

/-- Fuel above the measure is enough, and how much more does not matter. -/
theorem run_eq_run (hdec : Decreases step measure) {fuel fuel' : ℕ} (h : measure s < fuel)
    (h' : measure s < fuel') : (run step fuel s).isSome ∧ run step fuel s = run step fuel' s := by
  induction fuel generalizing fuel' s with
  | zero => exact absurd h (Nat.not_lt_zero _)
  | succ fuel ih =>
    obtain ⟨fuel', rfl⟩ : ∃ n, fuel' = n + 1 :=
      Nat.exists_eq_succ_of_ne_zero (Nat.ne_zero_of_lt h')
    cases hstep : step s with
    | inl s' =>
      have hless := hdec s s' hstep
      rw [run_again hstep, run_again hstep]
      exact ih (by omega) (by omega)
    | inr =>
      rw [run_done hstep, run_done hstep]
      exact ⟨rfl, rfl⟩

/-- The result of the loop. -/
def exec (step : σ → σ ⊕ ρ) (measure : σ → ℕ) (hdec : Decreases step measure) (s : σ) : ρ :=
  (run step (measure s + 1) s).get
    (run_eq_run hdec (Nat.lt_succ_self _) (Nat.lt_succ_self _)).1

variable (hdec : Decreases step measure)

theorem exec_done (h : step s = .inr r) : exec step measure hdec s = r := by
  simp only [exec, run_done h, Option.get_some]

theorem exec_again (h : step s = .inl s') :
    exec step measure hdec s = exec step measure hdec s' := by
  have hless := hdec s s' h
  have hfuel := (run_eq_run hdec hless (Nat.lt_succ_self (measure s'))).2
  simp only [exec, run_again h, hfuel]

/-- Fuel above any measure that decreases gives the result. -/
theorem run_eq_exec {measure' : σ → ℕ} (hdec' : Decreases step measure') {fuel : ℕ}
    (h : measure' s < fuel) : run step fuel s = some (exec step measure hdec s) := by
  have henough : measure' s < measure' s + fuel + (measure s + 1) := by omega
  have hlarge : measure s < measure' s + fuel + (measure s + 1) := by omega
  rw [(run_eq_run hdec' h henough).2, ← (run_eq_run hdec (Nat.lt_succ_self _) hlarge).2, exec,
    Option.some_get]

/-- **The invariant rule.**  What every turn keeps holds at the exit. -/
theorem exec_induction {I : σ → Prop} {Q : ρ → Prop} (again : ∀ s s', I s → step s = .inl s' → I s')
    (done : ∀ s r, I s → step s = .inr r → Q r) (h : I s) : Q (exec step measure hdec s) := by
  generalize hn : measure s = n
  induction n using Nat.strongRecOn generalizing s with
  | ind n ih =>
    cases hstep : step s with
    | inl s' =>
      rw [exec_again hdec hstep]
      exact ih _ (hn ▸ hdec s s' hstep) (again s s' h hstep) rfl
    | inr r =>
      rw [exec_done hdec hstep]
      exact done s r h hstep

/-! ## Loops that need not end -/

/-- The loop after at most `n` turns: still going, or left. -/
def turns (step : σ → σ ⊕ ρ) : ℕ → σ → σ ⊕ ρ
  | 0, s => .inl s
  | n + 1, s =>
    match step s with
    | .inl s' => turns step n s'
    | .inr r => .inr r

theorem turns_again (h : step s = .inl s') (n : ℕ) : turns step (n + 1) s = turns step n s' := by
  simp only [turns, h]

theorem turns_done (h : step s = .inr r) (n : ℕ) : turns step (n + 1) s = .inr r := by
  simp only [turns, h]

theorem turns_snoc {s'' : σ} {n : ℕ} (h : turns step n s = .inl s') (hstep : step s' = .inl s'') :
    turns step (n + 1) s = .inl s'' := by
  induction n generalizing s with
  | zero =>
    obtain rfl := Sum.inl.inj h
    exact turns_again hstep 0
  | succ n ih =>
    cases hfirst : step s with
    | inl =>
      rw [turns_again hfirst] at h ⊢
      exact ih h
    | inr =>
      rw [turns_done hfirst] at h
      exact absurd h nofun

/-- The result does not depend on the turns that are behind. -/
theorem exec_of_turns {n : ℕ} (h : turns step n s = .inl s') :
    exec step measure hdec s = exec step measure hdec s' := by
  induction n generalizing s with
  | zero =>
    obtain rfl := Sum.inl.inj h
    rfl
  | succ n ih =>
    cases hfirst : step s with
    | inl =>
      rw [turns_again hfirst] at h
      exact (exec_again hdec hfirst).trans (ih h)
    | inr =>
      rw [turns_done hfirst] at h
      exact absurd h nofun

/-- **The invariant rule**, for any number of turns. -/
theorem turns_induction {I : σ → Prop} {Q : ρ → Prop}
    (again : ∀ s s', I s → step s = .inl s' → I s') (done : ∀ s r, I s → step s = .inr r → Q r)
    (n : ℕ) (h : I s) : Sum.elim I Q (turns step n s) := by
  induction n generalizing s with
  | zero => exact h
  | succ n ih =>
    cases hstep : step s with
    | inl s' =>
      rw [turns_again hstep]
      exact ih (again s s' h hstep)
    | inr r =>
      rw [turns_done hstep]
      exact done s r h hstep

end WhileLoop
