import Mathlib.Order.MinMax
import Mathlib.Data.Nat.Basic
import LivoxMid360.Lib.Interleaving

/-!
# Fair runs

An infinite run of a concurrent program, in which time may also pass without a step.
It is *fair* to a thread when the thread, if it can make a move again and again, makes
one again and again; so a thread may have to wait for a mutex that others keep taking,
but not forever.

`Run.not_forever` is the rule for "something happens in every fair run": a run cannot
stay where each step of one thread lowers a rank, unless the thread is blocked for good.
With it, `Run.released` shows that a mutex is given back.  `Run.lasso` is the run that
plays one schedule and then repeats another one forever.
-/

namespace Concurrent

variable {ι : Type*} [DecidableEq ι] {L : ι → Type*} {M μ : Type*} (P : Concurrent ι L M μ)

/-- An infinite run. -/
structure Run where
  config : ℕ → Config L M
  moved : ℕ → Option (ι × μ)
  idle : ∀ n, moved n = none → config (n + 1) = config n
  step : ∀ n t a, moved n = some (t, a) → P.move t a (config n) = some (config (n + 1))

namespace Run

variable {P}

/-- All moves of the run meet `ok`. -/
def Meets (r : P.Run) (ok : ι → μ → Config L M → Prop) : Prop :=
  ∀ n t a, r.moved n = some (t, a) → ok t a (r.config n)

/-- A thread that can make a move again and again makes one again and again. -/
def Fair (r : P.Run) (t : ι) : Prop :=
  (∀ n, ∃ m ≥ n, P.Enabled t (r.config m)) → ∀ n, ∃ m ≥ n, ∃ a, r.moved m = some (t, a)

variable {r : P.Run} {start : Config L M} {ok : ι → μ → Config L M → Prop}

theorem reaches (hstart : P.Reaches start ok (r.config 0)) (hmeets : r.Meets ok) (n : ℕ) :
    P.Reaches start ok (r.config n) := by
  induction n with
  | zero => exact hstart
  | succ n ih =>
    cases hmoved : r.moved n with
    | none => exact r.idle n hmoved ▸ ih
    | some move =>
      obtain ⟨t, a⟩ := move
      exact .step ih (hmeets n t a hmoved) (r.step n t a hmoved)

/-- What no move ends holds from then on. -/
theorem stays {I : Config L M → Prop}
    (hkeeps : ∀ t a c c', I c → P.move t a c = some c' → I c') {n : ℕ}
    (hn : I (r.config n)) {m : ℕ} (hm : m ≥ n) : I (r.config m) := by
  induction m, hm using Nat.le_induction with
  | base => exact hn
  | succ m _ ih =>
    cases hmoved : r.moved m with
    | none => exact r.idle m hmoved ▸ ih
    | some move =>
      obtain ⟨t, a⟩ := move
      exact hkeeps t a _ _ ih (r.step m t a hmoved)

/-- A run is fair to a thread that is blocked for good. -/
theorem Fair.of_blocked {t : ι} {n : ℕ} (hblocked : ∀ m ≥ n, ¬P.Enabled t (r.config m)) :
    r.Fair t := by
  intro henabled
  obtain ⟨m, hm, h⟩ := henabled n
  exact absurd h (hblocked m hm)

/-! ## Progress -/

section Rank

variable {t : ι} {I : Config L M → Prop} (rank : L t → ℕ)

/-- **The rank rule.**  A run cannot stay forever where each step of `t` lowers a rank of
the place of `t`, and `t` is not blocked for good. -/
theorem not_forever (hfair : r.Fair t) {n : ℕ} (hstays : ∀ m ≥ n, I (r.config m))
    (hlowers : ∀ a c l m, I c → I ⟨Function.update c.pc t l, m⟩ →
      P.step t a (c.pc t) c.mem = some (l, m) → rank l < rank (c.pc t))
    (henabled : ∀ m ≥ n, ∃ k ≥ m, P.Enabled t (r.config k)) : False := by
  have hsteps : ∀ k, ∃ m ≥ k, ∃ a, r.moved m = some (t, a) := by
    refine hfair fun k => ?_
    obtain ⟨m, hm, h⟩ := henabled (max k n) (le_max_right k n)
    exact ⟨m, le_trans (le_max_left k n) hm, h⟩
  have hlow : ∀ m ≥ n, ∀ a, r.moved m = some (t, a) →
      rank ((r.config (m + 1)).pc t) < rank ((r.config m).pc t) := by
    intro m hm a hmoved
    have hthen := hstays (m + 1) (Nat.le_succ_of_le hm)
    obtain ⟨l, mem, hstep, hnext⟩ := P.move_eq_some.mp (r.step m t a hmoved)
    rw [hnext] at hthen ⊢
    dsimp only
    rw [Function.update_self]
    exact hlowers a _ l mem (hstays m hm) hthen hstep
  have hnext : ∀ m ≥ n, rank ((r.config (m + 1)).pc t) ≤ rank ((r.config m).pc t) := by
    intro m hm
    cases hmoved : r.moved m with
    | none => rw [r.idle m hmoved]
    | some move =>
      obtain ⟨u, a⟩ := move
      by_cases hu : u = t
      · subst hu
        exact (hlow m hm a hmoved).le
      · obtain ⟨l, mem, -, hnext⟩ := P.move_eq_some.mp (r.step m u a hmoved)
        rw [hnext]
        exact (congrArg rank (Function.update_of_ne (Ne.symm hu) l _)).le
  have hlater : ∀ m ≥ n, ∀ k, rank ((r.config (m + k)).pc t) ≤ rank ((r.config m).pc t) := by
    intro m hm k
    induction k with
    | zero => exact le_rfl
    | succ k ih => exact (hnext (m + k) (Nat.le_add_right_of_le hm)).trans ih
  -- The rank would go down forever.
  have hdown : ∀ k, ∀ m ≥ n, rank ((r.config m).pc t) = k → False := by
    intro k
    induction k using Nat.strongRecOn with
    | ind k ih =>
      intro m hm hrank
      obtain ⟨m', hm', a, hmoved⟩ := hsteps m
      obtain ⟨d, rfl⟩ := Nat.exists_eq_add_of_le hm'
      have hd : m + d ≥ n := Nat.le_add_right_of_le hm
      exact ih _ (lt_of_lt_of_le (hlow _ hd a hmoved) ((hlater m hm d).trans hrank.le))
        (m + d + 1) (Nat.le_succ_of_le hd) rfl
  exact hdown _ n le_rfl rfl

end Rank

section Mutex

variable {holder : M → Option ι} {holds : ∀ t, L t → Prop}

/-- A mutex that is never free stays with its holder. -/
theorem holder_eq (hrespects : P.RespectsMutex holder holds) {n : ℕ} {t : ι}
    (hheld : holder (r.config n).mem = some t)
    (hnever : ∀ m ≥ n, holder (r.config m).mem ≠ none) {m : ℕ} (hm : m ≥ n) :
    holder (r.config m).mem = some t := by
  induction m, hm using Nat.le_induction with
  | base => exact hheld
  | succ m hm ih =>
    cases hmoved : r.moved m with
    | none =>
      rw [r.idle m hmoved]
      exact ih
    | some move =>
      obtain ⟨u, a⟩ := move
      obtain ⟨l, mem, hstep, hnext⟩ := P.move_eq_some.mp (r.step m u a hmoved)
      rw [hnext]
      rcases hrespects u a _ _ l mem hstep with ⟨hsame, -⟩ | ⟨hfree, -⟩ | ⟨-, hfree, -⟩
      · exact hsame.trans ih
      · exact absurd hfree (hnever m hm)
      · have hlater := hnever (m + 1) (Nat.le_succ_of_le hm)
        rw [hnext] at hlater
        exact absurd hfree hlater

/-- **A mutex is given back**, when its holder comes out of its critical section in a
bounded number of steps and nothing blocks it there. -/
theorem released (hrespects : P.RespectsMutex holder holds)
    (hiff : ∀ n t, holds t ((r.config n).pc t) ↔ holder (r.config n).mem = some t) {t : ι}
    (hfair : r.Fair t) (rank : L t → ℕ)
    (hlowers : ∀ a l m l' m', holds t l → holds t l' → P.step t a l m = some (l', m') →
      rank l' < rank l)
    (henabled : ∀ c : Config L M, holds t (c.pc t) → P.Enabled t c) {n : ℕ}
    (hheld : holder (r.config n).mem = some t) : ∃ m ≥ n, holder (r.config m).mem = none := by
  by_contra hcontra
  have hstays : ∀ m ≥ n, holds t ((r.config m).pc t) := by
    intro m hm
    refine (hiff m t).mpr (holder_eq hrespects hheld (fun k hk hfree => ?_) hm)
    exact hcontra ⟨k, hk, hfree⟩
  refine not_forever (I := fun c => holds t (c.pc t)) rank hfair hstays
    (fun a c l m hin hout hstep => ?_) (fun m hm => ⟨m, le_rfl, henabled _ (hstays m hm)⟩)
  dsimp only at hout
  rw [Function.update_self] at hout
  exact hlowers a _ _ l m hin hout hstep

end Mutex

end Run

/-! ## Schedules that repeat -/

theorem exec_append (first rest : List (ι × μ)) (c : Config L M) :
    P.exec (first ++ rest) c = (P.exec first c).bind (P.exec rest) := by
  induction first generalizing c with
  | nil => rfl
  | cons move first ih =>
    rw [List.cons_append, exec, exec, Option.bind_assoc]
    exact congrArg _ (funext ih)

/-- One more move of a schedule that can be played to its end. -/
theorem exec_take_succ {moves : List (ι × μ)} {c c' : Config L M}
    (h : P.exec moves c = some c') {k : ℕ} (hk : k < moves.length) :
    ∃ before after, P.exec (moves.take k) c = some before ∧
      P.exec (moves.take (k + 1)) c = some after ∧
      P.move moves[k].1 moves[k].2 before = some after := by
  rw [← List.take_append_drop (k + 1) moves, exec_append] at h
  obtain ⟨after, hafter, -⟩ := Option.bind_eq_some_iff.mp h
  have hsplit := hafter
  rw [List.take_succ_eq_append_getElem hk, exec_append] at hsplit
  obtain ⟨before, hbefore, hlast⟩ := Option.bind_eq_some_iff.mp hsplit
  obtain ⟨after', hmove, hdone⟩ := Option.bind_eq_some_iff.mp hlast
  obtain rfl := Option.some.inj hdone
  exact ⟨before, after', hbefore, hafter, hmove⟩

/-- Every move of an allowed schedule meets `ok` where it is made. -/
theorem Allowed.getElem {P : Concurrent ι L M μ} {ok : ι → μ → Config L M → Prop}
    {moves : List (ι × μ)} {c : Config L M} (h : P.Allowed ok moves c) {k : ℕ}
    (hk : k < moves.length) {before : Config L M}
    (hbefore : P.exec (moves.take k) c = some before) :
    ok moves[k].1 moves[k].2 before := by
  induction moves generalizing c k with
  | nil => exact absurd hk (Nat.not_lt_zero k)
  | cons first moves ih =>
    cases k with
    | zero =>
      cases hbefore
      exact h.1
    | succ =>
      obtain ⟨next, hmove, hrest⟩ := Option.bind_eq_some_iff.mp hbefore
      exact ih (h.2 next hmove) (Nat.lt_of_succ_lt_succ hk) hrest

section Lasso

variable {P} {c c' : Config L M} {stem cycle : List (ι × μ)} (hstem : P.exec stem c = some c')
  (hcycle : P.exec cycle c' = some c') (hcycle_ne : cycle ≠ [])

/-- A schedule, and then another one forever. -/
def Run.lasso : P.Run where
  config n :=
    if n < stem.length then (P.exec (stem.take n) c).getD c
    else (P.exec (cycle.take ((n - stem.length) % cycle.length)) c').getD c'
  moved n :=
    if n < stem.length then stem[n]? else cycle[(n - stem.length) % cycle.length]?
  idle := by
    intro n hmoved
    exfalso
    split_ifs at hmoved with hn
    · rw [List.getElem?_eq_getElem hn] at hmoved
      exact absurd hmoved (by simp)
    · rw [List.getElem?_eq_getElem (Nat.mod_lt _ (List.length_pos_iff.mpr hcycle_ne))] at hmoved
      exact absurd hmoved (by simp)
  step := by
    intro n t a hmoved
    split_ifs at hmoved with hn
    · obtain ⟨before, after, hbefore, hafter, hmove⟩ := exec_take_succ P hstem hn
      rw [List.getElem?_eq_getElem hn] at hmoved
      rw [Option.some.inj hmoved] at hmove
      rw [if_pos hn, hbefore, Option.getD_some, hmove]
      split_ifs with hnext
      · rw [hafter, Option.getD_some]
      · have hend : n + 1 = stem.length := by omega
        rw [hend, List.take_length, hstem] at hafter
        rw [hend, Nat.sub_self, Nat.zero_mod, List.take_zero, exec, Option.getD_some]
        exact hafter.symm
    · have hk := Nat.mod_lt (n - stem.length) (List.length_pos_iff.mpr hcycle_ne)
      obtain ⟨before, after, hbefore, hafter, hmove⟩ := exec_take_succ P hcycle hk
      rw [List.getElem?_eq_getElem hk] at hmoved
      rw [Option.some.inj hmoved] at hmove
      have hsub : n + 1 - stem.length = n - stem.length + 1 := by omega
      rw [if_neg hn, hbefore, Option.getD_some, hmove, if_neg (by omega), hsub, ← Nat.mod_add_mod]
      rcases Nat.lt_or_eq_of_le (Nat.succ_le_of_lt hk) with hnext | hend
      · rw [Nat.mod_eq_of_lt hnext, hafter, Option.getD_some]
      · rw [Nat.succ_eq_add_one] at hend
        rw [hend, List.take_length, hcycle] at hafter
        rw [hend, Nat.mod_self, List.take_zero, exec, Option.getD_some]
        exact hafter.symm

/-- What holds all around the cycle holds from the end of the stem on. -/
theorem Run.lasso_always {p : Config L M → Bool}
    (h : ∀ k < cycle.length, (P.exec (cycle.take k) c').all p = true) {n : ℕ}
    (hn : stem.length ≤ n) : p ((Run.lasso hstem hcycle hcycle_ne).config n) = true := by
  have hk := Nat.mod_lt (n - stem.length) (List.length_pos_iff.mpr hcycle_ne)
  obtain ⟨before, -, hbefore, -⟩ := exec_take_succ P hcycle hk
  have hall := h _ hk
  rw [hbefore] at hall
  simpa [Run.lasso, Nat.not_lt.mpr hn, hbefore] using hall

theorem Run.lasso_zero : (Run.lasso hstem hcycle hcycle_ne).config 0 = c := by
  cases stem with
  | nil =>
    cases hstem
    simp [Run.lasso, exec]
  | cons => rfl

theorem Run.lasso_meets {ok : ι → μ → Config L M → Prop} (hstem_ok : P.Allowed ok stem c)
    (hcycle_ok : P.Allowed ok cycle c') : (Run.lasso hstem hcycle hcycle_ne).Meets ok := by
  intro n t a hmoved
  simp only [Run.lasso] at hmoved ⊢
  split_ifs at hmoved ⊢ with hn
  · obtain ⟨before, -, hbefore, -⟩ := exec_take_succ P hstem hn
    have hok := hstem_ok.getElem hn hbefore
    rw [List.getElem?_eq_getElem hn] at hmoved
    rw [Option.some.inj hmoved] at hok
    rwa [hbefore]
  · have hk := Nat.mod_lt (n - stem.length) (List.length_pos_iff.mpr hcycle_ne)
    obtain ⟨before, -, hbefore, -⟩ := exec_take_succ P hcycle hk
    have hok := hcycle_ok.getElem hk hbefore
    rw [List.getElem?_eq_getElem hk] at hmoved
    rw [Option.some.inj hmoved] at hok
    rwa [hbefore]

/-- A lasso is fair to the threads that move in its cycle. -/
theorem Run.lasso_fair {t : ι} {a : μ} (hmem : (t, a) ∈ cycle) :
    (Run.lasso hstem hcycle hcycle_ne).Fair t := by
  intro _ n
  obtain ⟨k, hk, hmove⟩ := List.getElem_of_mem hmem
  refine ⟨stem.length + (cycle.length * n + k), ?_, a, ?_⟩
  · have hpos := List.length_pos_iff.mpr hcycle_ne
    have hn : n ≤ cycle.length * n := Nat.le_mul_of_pos_left n hpos
    omega
  · simp only [Run.lasso]
    rw [if_neg (by omega), Nat.add_sub_cancel_left, Nat.mul_add_mod, Nat.mod_eq_of_lt hk,
      List.getElem?_eq_getElem hk, hmove]

end Lasso

end Concurrent
