import Mathlib.Data.Nat.Bitwise

/-!
# Prefix masks

A mask of `w` bits whose first `p` bits are one and whose other bits are zero splits the
addresses of `w` bits into subnets: the addresses that begin with the same `p` bits.

Whether a mask is such a prefix is tested without counting.  In the complement the ones
are at the low end, so adding one to it carries through all of them and leaves none in
place (`exists_isPrefix_iff`).  What the usual expressions with the mask mean for the
bits of an address is in `and_mask_eq_iff`, `eq_and_mask_iff` and
`eq_and_mask_or_not_iff`.
-/

namespace PrefixMask

variable {w p q : ℕ} {mask mask' a b : BitVec w}

/-- `p` leading ones, and zeros behind them. -/
def IsPrefix (mask : BitVec w) (p : ℕ) : Prop :=
  ∀ i < w, mask.getMsbD i = decide (i < p)

/-- The addresses begin with the same `p` bits. -/
def SameSubnet (p : ℕ) (a b : BitVec w) : Prop :=
  ∀ i < p, a.getMsbD i = b.getMsbD i

/-- The first address of its subnet: behind the prefix are zeros only. -/
def IsNetwork (p : ℕ) (a : BitVec w) : Prop :=
  ∀ i < w, p ≤ i → a.getMsbD i = false

/-- The last address of its subnet: behind the prefix are ones only. -/
def IsBroadcast (p : ℕ) (a : BitVec w) : Prop :=
  ∀ i < w, p ≤ i → a.getMsbD i = true

/-! ## The test -/

/-- From the low end: in the complement the ones come first. -/
theorem isPrefix_iff_getLsbD_not (hp : p ≤ w) :
    IsPrefix mask p ↔ ∀ i < w, (~~~mask).getLsbD i = decide (i < w - p) := by
  -- the bit at `i` from one end is the bit at `w - 1 - i` from the other
  have hflip : ∀ i < w, mask.getMsbD i = decide (i < p) ↔
      (~~~mask).getLsbD (w - 1 - i) = decide (w - 1 - i < w - p) := by
    intro i hi
    have hlow : w - 1 - i < w - p ↔ ¬i < p := by omega
    rw [BitVec.getMsbD_eq_getLsbD, BitVec.getLsbD_not]
    simp only [hi, show w - 1 - i < w by omega, hlow, decide_true, Bool.true_and, decide_not,
      Bool.not_inj_iff]
  constructor
  · intro h i hi
    have hbit := (hflip (w - 1 - i) (by omega)).mp (h _ (by omega))
    rwa [show w - 1 - (w - 1 - i) = i by omega] at hbit
  · intro h i hi
    exact (hflip i hi).mpr (h _ (by omega))

/-- The complement of a prefix, as a number. -/
theorem isPrefix_iff (hp : p ≤ w) : IsPrefix mask p ↔ (~~~mask).toNat = 2 ^ (w - p) - 1 := by
  rw [isPrefix_iff_getLsbD_not hp]
  constructor
  · intro h
    apply Nat.eq_of_testBit_eq
    intro i
    rw [Nat.testBit_two_pow_sub_one, BitVec.testBit_toNat]
    rcases Nat.lt_or_ge i w with hi | hi
    · exact h i hi
    · rw [BitVec.getLsbD_of_ge _ _ hi, eq_comm, decide_eq_false_iff_not]
      omega
  · intro h i hi
    rw [← BitVec.testBit_toNat, h, Nat.testBit_two_pow_sub_one]

/-- **The test for a prefix.**  The sum wraps for the mask zero only. -/
theorem exists_isPrefix_iff : (∃ p ≤ w, IsPrefix mask p) ↔ ~~~mask &&& (~~~mask + 1) = 0 := by
  generalize hhost : ~~~mask = host
  have hsmall := host.isLt
  have hzero : host &&& (host + 1) = 0 ↔ host.toNat &&& (host.toNat + 1) % 2 ^ w = 0 := by
    rw [← BitVec.toNat_inj, BitVec.toNat_and, BitVec.toNat_add]
    simp
  rw [hzero]
  constructor
  · rintro ⟨p, hp, h⟩
    have hvalue := (isPrefix_iff hp).mp h
    rw [hhost] at hvalue
    have hsucc : host.toNat + 1 = 2 ^ (w - p) := by
      have := Nat.two_pow_pos (w - p)
      omega
    rw [hsucc, hvalue, Nat.and_comm, Nat.and_two_pow_sub_one_eq_mod,
      Nat.mod_mod_of_dvd _ (Nat.pow_dvd_pow 2 (Nat.sub_le w p)), Nat.mod_self]
  · intro h
    rcases Nat.lt_or_ge (host.toNat + 1) (2 ^ w) with hlt | hge
    · rw [Nat.mod_eq_of_lt hlt, Nat.and_comm] at h
      obtain ⟨k, hk⟩ : (host.toNat + 1).isPowerOfTwo :=
        (Nat.and_sub_one_eq_zero_iff_isPowerOfTwo (Nat.succ_ne_zero _)).mp h
      have hkw : k < w := (Nat.pow_lt_pow_iff_right (by decide : 1 < 2)).mp (hk ▸ hlt)
      refine ⟨w - k, Nat.sub_le w k, (isPrefix_iff (Nat.sub_le w k)).mpr ?_⟩
      rw [hhost, show w - (w - k) = k by omega]
      omega
    · -- the complement is all ones: no bit of the mask is set
      refine ⟨0, Nat.zero_le w, (isPrefix_iff (Nat.zero_le w)).mpr ?_⟩
      rw [hhost, Nat.sub_zero]
      omega

/-- The length of a prefix is determined. -/
theorem IsPrefix.unique (hp : p ≤ w) (hq : q ≤ w) (h : IsPrefix mask p) (h' : IsPrefix mask q) :
    p = q := by
  rw [isPrefix_iff hp] at h
  rw [isPrefix_iff hq, h] at h'
  have hpos := Nat.two_pow_pos (w - p)
  have hpos' := Nat.two_pow_pos (w - q)
  have hpow : w - p = w - q := Nat.pow_right_injective (Nat.le_refl 2) (show 2 ^ _ = 2 ^ _ by omega)
  omega

/-- The mask of a length is determined. -/
theorem IsPrefix.ext (h : IsPrefix mask p) (h' : IsPrefix mask' p) : mask = mask' := by
  apply BitVec.eq_of_getMsbD_eq
  intro i hi
  rw [h i hi, h' i hi]

/-- Whether a prefix is a given mask is a question of its length. -/
theorem IsPrefix.eq_iff (hp : p ≤ w) (hq : q ≤ w) (h : IsPrefix mask p) (h' : IsPrefix mask' q) :
    mask = mask' ↔ p = q := by
  constructor
  · rintro rfl
    exact h.unique hp hq h'
  · rintro rfl
    exact h.ext h'

/-! ## The subnet of an address -/

/-- Two addresses are equal under the mask in one subnet. -/
theorem and_mask_eq_iff (hp : p ≤ w) (h : IsPrefix mask p) :
    a &&& mask = b &&& mask ↔ SameSubnet p a b := by
  constructor
  · intro heq i hi
    have hbit := congrArg (BitVec.getMsbD · i) heq
    simpa [h i (by omega), hi] using hbit
  · intro hsame
    apply BitVec.eq_of_getMsbD_eq
    intro i hi
    rw [BitVec.getMsbD_and, BitVec.getMsbD_and, h i hi]
    by_cases hip : i < p
    · rw [hsame i hip]
    · simp [hip]

/-- An address that the mask leaves as it is is the first of its subnet. -/
theorem eq_and_mask_iff (h : IsPrefix mask p) : a = a &&& mask ↔ IsNetwork p a := by
  constructor
  · intro heq i hi hip
    have hbit := congrArg (BitVec.getMsbD · i) heq
    simpa [h i hi, Nat.not_lt.mpr hip] using hbit
  · intro hzero
    apply BitVec.eq_of_getMsbD_eq
    intro i hi
    rw [BitVec.getMsbD_and, h i hi]
    by_cases hip : i < p
    · simp [hip]
    · simp [hzero i hi (Nat.le_of_not_lt hip)]

/-- An address that has all ones behind the prefix is the last of its subnet. -/
theorem eq_and_mask_or_not_iff (h : IsPrefix mask p) :
    a = a &&& mask ||| ~~~mask ↔ IsBroadcast p a := by
  constructor
  · intro heq i hi hip
    have hbit := congrArg (BitVec.getMsbD · i) heq
    simpa [h i hi, hi, Nat.not_lt.mpr hip] using hbit
  · intro hone
    apply BitVec.eq_of_getMsbD_eq
    intro i hi
    rw [BitVec.getMsbD_or, BitVec.getMsbD_and, BitVec.getMsbD_not, h i hi]
    by_cases hip : i < p
    · simp [hip]
    · simp [hone i hi (Nat.le_of_not_lt hip), hip, hi]

end PrefixMask
