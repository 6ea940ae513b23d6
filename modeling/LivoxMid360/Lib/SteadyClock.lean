import LivoxMid360.Lib.WhileLoop
import Mathlib.Order.Bounds.Basic
import Mathlib.Order.Lattice
import Mathlib.Algebra.Order.Ring.Int
import Mathlib.Data.Int.LeastGreatest

/-!
# Time points of a clock with 64-bit ticks

Time points and durations are signed 64-bit counts, and a sum that leaves their range has no
value: `add` and `sub` are `none` there.  Everything is specified through `Int64.toInt`, so
that a time is an integer and its order that of the integers.

A periodic timer that was not served in time skips the periods it missed.  `upcoming` is the
set of its times that are still to come, and `skip_eq_some_iff` says that the loop finds the
first of them, if that one is a time point at all.
-/

namespace SteadyClock

/-- An integer that is a time point. -/
def Fits (t : ℤ) : Prop :=
  ∃ c : Int64, c.toInt = t

def add (a b : Int64) : Option Int64 :=
  if (a + b).toInt = a.toInt + b.toInt then some (a + b) else none

def sub (a b : Int64) : Option Int64 :=
  if (a - b).toInt = a.toInt - b.toInt then some (a - b) else none

variable {a b c : Int64} {t : ℤ}

theorem fits_iff : Fits t ↔ -2 ^ 63 ≤ t ∧ t < 2 ^ 63 := by
  constructor
  · rintro ⟨c, rfl⟩
    exact ⟨c.le_toInt, c.toInt_lt⟩
  · rintro ⟨hlow, hhigh⟩
    exact ⟨Int64.ofInt t, Int64.toInt_ofInt_of_le hlow hhigh⟩

theorem add_eq_some_iff : add a b = some c ↔ c.toInt = a.toInt + b.toInt := by
  unfold add
  constructor
  · intro h
    split_ifs at h with hexact
    rw [← Option.some.inj h]
    exact hexact
  · intro h
    have hsum : c = a + b := by
      rw [← Int64.ofInt_toInt c, h, Int64.ofInt_add, Int64.ofInt_toInt, Int64.ofInt_toInt]
    rw [← hsum, if_pos h]

theorem eq_add_of_add (h : add a b = some c) : c = a + b := by
  unfold add at h
  split_ifs at h
  exact (Option.some.inj h).symm

theorem sub_eq_some_iff : sub a b = some c ↔ c.toInt = a.toInt - b.toInt := by
  unfold sub
  constructor
  · intro h
    split_ifs at h with hexact
    rw [← Option.some.inj h]
    exact hexact
  · intro h
    have hdiff : c = a - b := by
      rw [← Int64.ofInt_toInt c, h, Int64.ofInt_sub, Int64.ofInt_toInt, Int64.ofInt_toInt]
    rw [← hdiff, if_pos h]

/-- A sum has a value if it is in the range. -/
theorem exists_add_iff : (∃ c, add a b = some c) ↔ Fits (a.toInt + b.toInt) :=
  exists_congr fun _ => add_eq_some_iff

/-! ## Periodic timers -/

/-- The times of a periodic timer behind `now`. -/
def upcoming (next interval now : ℤ) : Set ℤ :=
  {t | now < t ∧ ∃ k : ℕ, t = next + k * interval}

/-- One turn of the loop that skips the missed periods. -/
def skipOne (interval now next : Int64) : Int64 ⊕ Option Int64 :=
  if next ≤ now then
    match add next interval with
    | none => .inr none
    | some next => .inl next
  else .inr (some next)

variable {interval now next : Int64}

theorem skipOne_again {next' : Int64} (h : skipOne interval now next = .inl next') :
    next ≤ now ∧ next'.toInt = next.toInt + interval.toInt := by
  unfold skipOne at h
  split_ifs at h with hle
  cases hsum : add next interval with
  | none =>
    rw [hsum] at h
    exact absurd h (by simp)
  | some =>
    rw [hsum] at h
    obtain rfl := Sum.inl.inj h
    exact ⟨hle, add_eq_some_iff.mp hsum⟩

theorem skipOne_decreases (hpos : 0 < interval) (now : Int64) :
    WhileLoop.Decreases (skipOne interval now) fun next => (now.toInt + 1 - next.toInt).toNat := by
  intro next next' h
  obtain ⟨hle, hsum⟩ := skipOne_again h
  have hstep : 0 < interval.toInt := Int64.lt_iff_toInt_lt.mp hpos
  have hle : next.toInt ≤ now.toInt := Int64.le_iff_toInt_le.mp hle
  show (now.toInt + 1 - next'.toInt).toNat < (now.toInt + 1 - next.toInt).toNat
  omega

/-- The first time behind `now`. -/
def skip (interval : Int64) (hpos : 0 < interval) (now next : Int64) : Option Int64 :=
  WhileLoop.exec (skipOne interval now) (fun next => (now.toInt + 1 - next.toInt).toNat)
    (skipOne_decreases hpos now) next

/-- A time that is over is not one of those to come. -/
theorem upcoming_step {next interval now : ℤ} (h : next ≤ now) :
    upcoming next interval now = upcoming (next + interval) interval now := by
  ext t
  constructor
  · rintro ⟨hlater, k, rfl⟩
    refine ⟨hlater, ?_⟩
    cases k with
    | zero =>
      simp only [Nat.cast_zero, Int.zero_mul, Int.add_zero] at hlater
      omega
    | succ k =>
      refine ⟨k, ?_⟩
      rw [Nat.cast_add, Int.add_mul, Nat.cast_one, Int.one_mul]
      omega
  · rintro ⟨hlater, k, rfl⟩
    refine ⟨hlater, k + 1, ?_⟩
    rw [Nat.cast_add, Int.add_mul, Nat.cast_one, Int.one_mul]
    omega

theorem le_of_mem_upcoming {next interval now : ℤ} (hpos : 0 < interval)
    (h : t ∈ upcoming next interval now) : next ≤ t := by
  obtain ⟨-, k, rfl⟩ := h
  have := Int.mul_nonneg (Int.natCast_nonneg k) (Int.le_of_lt hpos)
  omega

/-- A time that is still to come is the first of those. -/
theorem isLeast_upcoming {next interval now : ℤ} (hpos : 0 < interval) (h : now < next) :
    IsLeast (upcoming next interval now) next :=
  ⟨⟨h, 0, by simp⟩, fun _ => le_of_mem_upcoming hpos⟩

/-- The loop at a time that is still to come. -/
theorem skip_of_lt (hpos : 0 < interval) (h : now < next) :
    skip interval hpos now next = some next := by
  have hturn : skipOne interval now next = .inr (some next) := by
    rw [skipOne, if_neg (Int64.not_le.mpr h)]
  exact WhileLoop.exec_done _ hturn

/-- The loop at a time that is over. -/
theorem skip_of_le (hpos : 0 < interval) (h : next ≤ now) :
    skip interval hpos now next = (add next interval).bind (skip interval hpos now) := by
  cases hsum : add next interval with
  | none =>
    have hturn : skipOne interval now next = .inr none := by
      rw [skipOne, if_pos h, hsum]
    exact WhileLoop.exec_done _ hturn
  | some sum =>
    have hturn : skipOne interval now next = .inl sum := by
      rw [skipOne, if_pos h, hsum]
    exact WhileLoop.exec_again _ hturn

/-- **The loop finds the first time to come**, and ends without a value if that one is out of
the range. -/
theorem skip_eq_some_iff (hpos : 0 < interval) (now next n : Int64) :
    skip interval hpos now next = some n ↔
      IsLeast (upcoming next.toInt interval.toInt now.toInt) n.toInt := by
  have hstep : 0 < interval.toInt := Int64.lt_iff_toInt_lt.mp hpos
  generalize hm : (now.toInt + 1 - next.toInt).toNat = m
  induction m using Nat.strongRecOn generalizing next with
  | ind m ih =>
    by_cases hle : next ≤ now
    · have hover : next.toInt ≤ now.toInt := Int64.le_iff_toInt_le.mp hle
      rw [upcoming_step hover, skip_of_le hpos hle]
      cases hsum : add next interval with
      | none =>
        -- the first time is out of the range, and so are the later ones
        refine ⟨fun h => absurd h (by simp), fun h => ?_⟩
        have hfirst := le_of_mem_upcoming hstep h.1
        have hout : ¬Fits (next.toInt + interval.toInt) := by
          rw [← exists_add_iff, hsum]
          simp
        rw [fits_iff] at hout
        have := n.toInt_lt
        have := next.le_toInt
        omega
      | some sum =>
        have hexact := add_eq_some_iff.mp hsum
        have hshorter : (now.toInt + 1 - sum.toInt).toNat < m := by omega
        rw [Option.bind_some, ← hexact]
        exact ih _ hshorter sum rfl
    · have hlt : now < next := Int64.not_le.mp hle
      have hleast := isLeast_upcoming hstep (Int64.lt_iff_toInt_lt.mp hlt)
      rw [skip_of_lt hpos hlt]
      constructor
      · intro h
        rw [← Option.some.inj h]
        exact hleast
      · intro h
        rw [Int64.toInt_inj.mp (hleast.unique h)]

/-- The loop ends with a value if one of the times to come is in the range. -/
theorem exists_skip_iff (hpos : 0 < interval) :
    (∃ n, skip interval hpos now next = some n) ↔
      ∃ t ∈ upcoming next.toInt interval.toInt now.toInt, Fits t := by
  constructor
  · rintro ⟨n, hskip⟩
    exact ⟨n.toInt, ((skip_eq_some_iff hpos now next n).mp hskip).1, n, rfl⟩
  · rintro ⟨t, hmem, hfits⟩
    obtain ⟨first, hfirst, hleast⟩ :=
      Int.exists_least_of_bdd ⟨now.toInt, fun t ht => Int.le_of_lt ht.1⟩ ⟨t, hmem⟩
    have hrange : Fits first := by
      rw [fits_iff] at hfits ⊢
      have hle : first ≤ t := hleast t hmem
      have hlater : now.toInt < first := hfirst.1
      have := now.le_toInt
      omega
    obtain ⟨n, rfl⟩ := hrange
    exact ⟨n, (skip_eq_some_iff hpos now next n).mpr ⟨hfirst, fun t ht => hleast t ht⟩⟩

end SteadyClock
