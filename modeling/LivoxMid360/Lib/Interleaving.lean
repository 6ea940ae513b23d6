import Mathlib.Data.List.Basic
import Mathlib.Logic.Function.Basic

/-!
# Threads over a shared memory

A concurrent program is given by what each of its threads does in one atomic step: from
its own control state and the shared memory, a step leads to its next control state and
changes the memory.  Which of several steps is taken is the *move*; time, the network and
the callers are moves.  A thread that cannot make a move is blocked.

* `Concurrent.Reaches ok c` are the configurations of the runs whose moves all meet `ok`;
  `Reaches.induction` is the invariant rule.
* `Concurrent.exec` plays a given schedule, so that a run can be computed.
* `Concurrent.lock` takes a mutex that is a field of the memory.
* `Reaches.holds_iff` is the rule for a mutex: when every step either leaves it and its
  holder alone, or takes it free, or gives it back, then at every time the holder is the
  one thread that is between the two.
* Where all threads run the same code, `Concurrent.actor` is the place of the holder of a
  mutex, and `actor_update` says how a step changes it.
-/

/-- A program of threads `ι` with control states `L`, memory `M` and moves `μ`. -/
structure Concurrent (ι : Type*) (L : ι → Type*) (M μ : Type*) where
  /-- One atomic step of a thread. -/
  step : (t : ι) → μ → L t → M → Option (L t × M)

namespace Concurrent

/-- Where all threads are, and the memory. -/
@[ext] structure Config {ι : Type*} (L : ι → Type*) (M : Type*) where
  pc : ∀ t, L t
  mem : M

variable {ι : Type*} [DecidableEq ι] {L : ι → Type*} {M μ : Type*} (P : Concurrent ι L M μ)

/-- A step of the thread `t`. -/
def move (t : ι) (a : μ) (c : Config L M) : Option (Config L M) :=
  (P.step t a (c.pc t) c.mem).map fun r => ⟨Function.update c.pc t r.1, r.2⟩

variable {c c' : Config L M}

/-- What a step does to the whole: the other threads stay where they are. -/
theorem move_eq_some {t : ι} {a : μ} :
    P.move t a c = some c' ↔
      ∃ l m, P.step t a (c.pc t) c.mem = some (l, m) ∧ c' = ⟨Function.update c.pc t l, m⟩ := by
  unfold move
  constructor
  · intro h
    obtain ⟨⟨l, m⟩, hstep, rfl⟩ := Option.map_eq_some_iff.mp h
    exact ⟨l, m, hstep, rfl⟩
  · rintro ⟨l, m, hstep, rfl⟩
    rw [hstep]
    rfl

/-- A thread that is not blocked. -/
def Enabled (t : ι) (c : Config L M) : Prop :=
  ∃ a, (P.step t a (c.pc t) c.mem).isSome

/-! ## Runs -/

/-- The configurations reached from `start` by moves that all meet `ok`. -/
inductive Reaches (start : Config L M) (ok : ι → μ → Config L M → Prop) : Config L M → Prop
  | start : Reaches start ok start
  | step {t : ι} {a : μ} {c c' : Config L M} (reached : Reaches start ok c) (meets : ok t a c)
      (moved : P.move t a c = some c') : Reaches start ok c'

/-- No condition on the moves. -/
def anyMove : ι → μ → Config L M → Prop :=
  fun _ _ _ => True

variable {P} {start : Config L M} {ok : ι → μ → Config L M → Prop}

/-- A run goes on from where another has led to. -/
theorem Reaches.trans (h : P.Reaches start ok c) (h' : P.Reaches c ok c') :
    P.Reaches start ok c' := by
  induction h' with
  | start => exact h
  | step _ meets moved ih => exact .step ih meets moved

/-- **The invariant rule.** -/
theorem Reaches.induction {I : Config L M → Prop} (hstart : I start)
    (hstep : ∀ t a c l m, P.Reaches start ok c → I c → ok t a c →
      P.step t a (c.pc t) c.mem = some (l, m) → I ⟨Function.update c.pc t l, m⟩)
    (h : P.Reaches start ok c) : I c := by
  induction h with
  | start => exact hstart
  | step reached meets moved ih =>
    obtain ⟨l, m, hlocal, rfl⟩ := P.move_eq_some.mp moved
    exact hstep _ _ _ l m reached ih meets hlocal

/-- Play a schedule. -/
def exec (P : Concurrent ι L M μ) : List (ι × μ) → Config L M → Option (Config L M)
  | [], c => some c
  | (t, a) :: moves, c => (P.move t a c).bind (exec P moves)

/-- All moves of a schedule meet `ok`. -/
def Allowed (P : Concurrent ι L M μ) (ok : ι → μ → Config L M → Prop) :
    List (ι × μ) → Config L M → Prop
  | [], _ => True
  | (t, a) :: moves, c => ok t a c ∧ ∀ c' ∈ P.move t a c, Allowed P ok moves c'

instance Allowed.decidable [∀ t a c, Decidable (ok t a c)] :
    ∀ (moves : List (ι × μ)) (c : Config L M), Decidable (P.Allowed ok moves c)
  | [], _ => inferInstanceAs (Decidable True)
  | (t, a) :: moves, c =>
    have := Allowed.decidable moves
    inferInstanceAs (Decidable (ok t a c ∧ ∀ c' ∈ P.move t a c, P.Allowed ok moves c'))

theorem allowed_anyMove (moves : List (ι × μ)) (c : Config L M) : P.Allowed anyMove moves c := by
  induction moves generalizing c with
  | nil => trivial
  | cons first moves ih => exact ⟨trivial, fun c' _ => ih c'⟩

variable {moves : List (ι × μ)}

/-- What a schedule leads to is reached. -/
theorem Reaches.exec (h : P.Reaches start ok c) (hallowed : P.Allowed ok moves c)
    (hexec : P.exec moves c = some c') : P.Reaches start ok c' := by
  induction moves generalizing c with
  | nil =>
    cases hexec
    exact h
  | cons first moves ih =>
    obtain ⟨next, hmove, hrest⟩ := Option.bind_eq_some_iff.mp hexec
    exact ih (.step h hallowed.1 hmove) (hallowed.2 next hmove) hrest

/-- A schedule that can be computed shows what is reached. -/
theorem Reaches.of_exec {p : Config L M → Bool} (hallowed : P.Allowed ok moves start)
    (h : (P.exec moves start).any p = true) : ∃ c, P.Reaches start ok c ∧ p c = true := by
  cases hexec : P.exec moves start with
  | none =>
    rw [hexec] at h
    exact absurd h (by simp)
  | some c =>
    rw [hexec] at h
    exact ⟨c, Reaches.start.exec hallowed hexec, h⟩

/-- Where a schedule leads to, thread by thread. -/
theorem exec_eq_some (hsome : (P.exec moves c).isSome = true)
    (hpc : ∀ t, ((P.exec moves c).get hsome).pc t = c'.pc t)
    (hmem : ((P.exec moves c).get hsome).mem = c'.mem) : P.exec moves c = some c' := by
  rw [← Option.some_get hsome]
  exact congrArg some (Config.ext (funext hpc) hmem)

/-- A step that runs a step of a function it has called. -/
theorem map_step_eq_some {S S' : Type*} {o : Option (S × M)} {g : S × M → S'} {s' : S'} {m' : M} :
    (o.map fun r => (g r, r.2)) = some (s', m') ↔ ∃ s, o = some (s, m') ∧ g (s, m') = s' := by
  simp only [Option.map_eq_some_iff, Prod.mk.injEq, Prod.exists]
  grind

/-! ## Mutexes -/

section Lock

variable {S : Type*} {holder : M → Option ι} {hold : M → Option ι → M} {t : ι} {m m' : M}

/-- Take a mutex if it is free; `hold` enters the holder into the memory. -/
@[grind =] def lock (holder : M → Option ι) (hold : M → Option ι → M) (t : ι) (m : M) :
    Option M :=
  if holder m = none then some (hold m (some t)) else none

omit [DecidableEq ι] in
theorem lock_eq_some : lock holder hold t m = some m' ↔ holder m = none ∧ hold m (some t) = m' := by
  rw [lock, Option.ite_none_right_eq_some, Option.some.injEq]

omit [DecidableEq ι] in
/-- A step that takes a mutex. -/
theorem map_lock_eq_some {s s' : S} :
    (lock holder hold t m).map (s, ·) = some (s', m') ↔
      holder m = none ∧ s = s' ∧ hold m (some t) = m' := by
  simp only [Option.map_eq_some_iff, lock_eq_some, Prod.mk.injEq, and_assoc, exists_and_left,
    exists_eq_left']

end Lock

/-- What a step of the thread `t` may do to a mutex: leave it alone, take it free, or
give it back.  `held` and `holds` say whether the thread is where it has the mutex. -/
def MutexStep (t : ι) (before after : Option ι) (held holds : Prop) : Prop :=
  after = before ∧ (holds ↔ held) ∨ before = none ∧ after = some t ∧ holds ∨
    held ∧ after = none ∧ ¬holds

/-- All steps respect a mutex; `holds` says where in its code a thread has it. -/
def RespectsMutex (P : Concurrent ι L M μ) (holder : M → Option ι) (holds : ∀ t, L t → Prop) :
    Prop :=
  ∀ t a l m l' m', P.step t a l m = some (l', m') →
    MutexStep t (holder m) (holder m') (holds t l) (holds t l')

/-- **Mutual exclusion.**  The thread that has the mutex is the one that is where the
mutex is held. -/
theorem Reaches.holds_iff {holder : M → Option ι} {holds : ∀ t, L t → Prop}
    (hrespects : P.RespectsMutex holder holds) (hfree : holder start.mem = none)
    (hout : ∀ t, ¬holds t (start.pc t)) (h : P.Reaches start ok c) (t : ι) :
    holds t (c.pc t) ↔ holder c.mem = some t := by
  revert t
  refine h.induction (I := fun c => ∀ t, holds t (c.pc t) ↔ holder c.mem = some t)
    (fun t => ?_) fun i a c l m _ ih _ hstep t => ?_
  · rw [hfree]
    exact iff_of_false (hout t) (by simp)
  · dsimp only
    rcases hrespects i a _ _ l m hstep with ⟨hsame, hholds⟩ | ⟨hnone, htaken, hin⟩ |
      ⟨hin, hgiven, hnow⟩
    · rw [hsame, ← ih t]
      by_cases hti : t = i
      · subst hti
        rw [Function.update_self, hholds]
      · rw [Function.update_of_ne hti]
    · rw [htaken]
      by_cases hti : t = i
      · subst hti
        rw [Function.update_self]
        exact iff_of_true hin rfl
      · rw [Function.update_of_ne hti, ih t, hnone]
        exact iff_of_false (by simp) fun heq => hti (Option.some.inj heq).symm
    · rw [hgiven]
      by_cases hti : t = i
      · subst hti
        rw [Function.update_self]
        exact iff_of_false hnow (by simp)
      · rw [Function.update_of_ne hti, ih t, (ih i).mp hin]
        exact iff_of_false (fun heq => hti (Option.some.inj heq).symm) (by simp)

omit [DecidableEq ι] in
/-- At most one thread has the mutex. -/
theorem holds_unique {holder : Option ι} {holds : ι → Prop}
    (hiff : ∀ t, holds t ↔ holder = some t) {t u : ι} (ht : holds t) (hu : holds u) : t = u :=
  Option.some.inj (((hiff t).mp ht).symm.trans ((hiff u).mp hu))

/-! ## The holder of a mutex -/

section Actor

variable {S : Type*} {holder : M → Option ι} {holds : S → Bool} {rest : S}

/-- Where the holder of a mutex is; `rest` when the mutex is free. -/
def actor (holder : M → Option ι) (rest : S) (c : Config (fun _ : ι => S) M) : S :=
  (holder c.mem).elim rest c.pc

variable {c : Config (fun _ : ι => S) M} {t : ι} {l : S} {m : M}

omit [DecidableEq ι] in
theorem actor_of_holds (hiff : ∀ t, holds (c.pc t) = true ↔ holder c.mem = some t)
    (h : holds (c.pc t) = true) : actor holder rest c = c.pc t := by
  rw [actor, (hiff t).mp h]
  rfl

/-- What a step of one thread does to the holder. -/
theorem actor_update (hiff : ∀ t, holds (c.pc t) = true ↔ holder c.mem = some t)
    (hstep : MutexStep t (holder c.mem) (holder m) (holds (c.pc t) = true) (holds l = true)) :
    actor holder rest ⟨Function.update c.pc t l, m⟩ =
      if holds l then l else if holds (c.pc t) then rest else actor holder rest c := by
  unfold actor
  dsimp only
  rcases hstep with ⟨hsame, hholds⟩ | ⟨-, htaken, hin⟩ | ⟨hin, hgiven, hout⟩
  · rw [hsame]
    by_cases hl : holds l = true
    · rw [if_pos hl, (hiff t).mp (hholds.mp hl), Option.elim_some, Function.update_self]
    · have ht : holds (c.pc t) ≠ true := fun ht => hl (hholds.mpr ht)
      rw [if_neg hl, if_neg ht]
      cases hheld : holder c.mem with
      | none => rfl
      | some u =>
        have hu : u ≠ t := by
          rintro rfl
          exact ht ((hiff u).mpr hheld)
        rw [Option.elim_some, Option.elim_some, Function.update_of_ne hu]
  · rw [htaken, if_pos hin, Option.elim_some, Function.update_self]
  · rw [hgiven, if_neg hout, if_pos hin]
    rfl

omit [DecidableEq ι] in
/-- A mutex is taken when it is free. -/
theorem actor_of_takes
    (hstep : MutexStep t (holder c.mem) (holder m) (holds (c.pc t) = true) (holds l = true))
    (hout : holds (c.pc t) = false) (hin : holds l = true) : actor holder rest c = rest := by
  rcases hstep with ⟨-, hholds⟩ | ⟨hfree, -⟩ | ⟨hbefore, -⟩
  · rw [hholds.mp hin] at hout
    exact absurd hout (by simp)
  · rw [actor, hfree]
    rfl
  · rw [hbefore] at hout
    exact absurd hout (by simp)

end Actor

end Concurrent
