import Mathlib.Logic.Function.Iterate
import Mathlib.Tactic.Common
import Mathlib.Data.List.Basic

/-!
# Linear feedback shift registers, a byte at a time

A cyclic redundancy check is a shift register over `GF(2)`: each message bit is
added into the register, which then advances by one linear step.  Everything
that makes it useful follows from three properties of the byte-wide advance map,
collected in `ByteRegister`:

* it is **linear** for exclusive or;
* it is **injective**, because the generator has a constant term;
* it moves a byte that sits one lane further back one lane forward, so the first
  `k` bytes fed to a register of `k` lanes are *loaded* rather than mixed.

The last point is `feed_block`: feeding at most `k` bytes is loading them into
the lanes and advancing.  `feed_burst_ne` is the consequence every protocol
relies on: two messages that differ only inside a window no wider than the
register leave different remainders.

`reflected` and `msbFirst` are the two orientations in use, for an arbitrary
generator; `reflectedBit_iterate_table` and `msbFirstBit_iterate_table` are the
identities behind table-driven implementations.
-/

namespace ShiftRegister

variable {w k : ℕ}

/-- Exclusive or of the bytes of a block, the first byte in lane `i`. -/
def load (lane : ℕ → UInt8 → BitVec w) : ℕ → List UInt8 → BitVec w
  | _, [] => 0#w
  | i, b :: bs => lane i b ^^^ load lane (i + 1) bs

/-- A `GF(2)`-linear register of width `w` that takes one byte per step and has
`k` byte lanes.  `peek i` reads lane `i` back. -/
structure ByteRegister (w k : ℕ) where
  /-- Advance by one byte of zeros. -/
  advance : BitVec w → BitVec w
  /-- Place a byte in a lane; lane `0` is the one that leaves the register next. -/
  lane : ℕ → UInt8 → BitVec w
  /-- Read a lane. -/
  peek : ℕ → BitVec w → UInt8
  advance_xor : ∀ a b, advance (a ^^^ b) = advance a ^^^ advance b
  advance_injective : Function.Injective advance
  advance_lane : ∀ i b, i + 1 < k → advance (lane (i + 1) b) = lane i b
  peek_xor : ∀ i a b, peek i (a ^^^ b) = peek i a ^^^ peek i b
  peek_lane_self : ∀ i b, i < k → peek i (lane i b) = b
  peek_lane_of_lt : ∀ i j b, i < j → j < k → peek i (lane j b) = 0

namespace ByteRegister

variable (R : ByteRegister w k)

variable (s : BitVec w)

/-- One message byte: add it to lane `0`, then advance. -/
def step (b : UInt8) : BitVec w :=
  R.advance (s ^^^ R.lane 0 b)

/-- Feed a message. -/
def feed (bytes : List UInt8) : BitVec w :=
  bytes.foldl R.step s

@[simp] theorem feed_nil : R.feed s [] = s := rfl

@[simp] theorem feed_cons (b : UInt8) (bs : List UInt8) :
    R.feed s (b :: bs) = R.feed (R.step s b) bs := rfl

theorem feed_append (xs ys : List UInt8) : R.feed s (xs ++ ys) = R.feed (R.feed s xs) ys :=
  List.foldl_append

/-- The remainder determines the register it started from. -/
theorem feed_injective (bytes : List UInt8) : Function.Injective fun s => R.feed s bytes := by
  induction bytes with
  | nil => exact fun _ _ h => h
  | cons b bs ih =>
    intro s s' h
    have hstep : R.step s b = R.step s' b := ih h
    exact (BitVec.xor_left_inj _).mp (R.advance_injective hstep)

/-- Advancing moves a loaded block one lane forward. -/
theorem advance_load (i : ℕ) (block : List UInt8) (h : i + 1 + block.length ≤ k) :
    R.advance (load R.lane (i + 1) block) = load R.lane i block := by
  induction block generalizing i with
  | nil =>
    have hz := R.advance_xor 0#w 0#w
    simpa [load] using hz
  | cons b bs ih =>
    rw [List.length_cons] at h
    simp only [load]
    rw [R.advance_xor, R.advance_lane i b (by omega), ih (i + 1) (by omega)]

/-- **A block no wider than the register is loaded, not mixed.** -/
theorem feed_block (block : List UInt8) (h : block.length ≤ k) :
    R.feed s block = R.advance^[block.length] (s ^^^ load R.lane 0 block) := by
  induction block generalizing s with
  | nil => simp [load]
  | cons b bs ih =>
    rw [List.length_cons] at h
    have hmove := R.advance_load 0 bs (by omega)
    rw [feed_cons, ih _ (by omega), List.length_cons, Function.iterate_succ_apply]
    congr 1
    rw [load, ← BitVec.xor_assoc, R.advance_xor, hmove, step]

theorem peek_load_of_lt (i j : ℕ) (block : List UInt8) (hij : i < j)
    (h : j + block.length ≤ k) : R.peek i (load R.lane j block) = 0 := by
  induction block generalizing j with
  | nil =>
    have hz := R.peek_xor i 0#w 0#w
    simpa [load] using hz
  | cons b bs ih =>
    rw [List.length_cons] at h
    rw [load, R.peek_xor, R.peek_lane_of_lt i j b hij (by omega), ih (j + 1) (by omega) (by omega)]
    rfl

/-- The lanes keep the bytes of a block apart. -/
theorem load_injective (i : ℕ) (x y : List UInt8) (hlen : x.length = y.length)
    (hk : i + x.length ≤ k) (h : load R.lane i x = load R.lane i y) : x = y := by
  induction x generalizing i y with
  | nil => exact (List.length_eq_zero_iff.mp hlen.symm).symm
  | cons b bs ih =>
    obtain ⟨b', bs', rfl⟩ : ∃ b' bs', y = b' :: bs' := by
      cases y with
      | nil => simp at hlen
      | cons b' bs' => exact ⟨b', bs', rfl⟩
    simp only [List.length_cons] at hlen hk
    have hhead : b = b' := by
      have hpeek := congrArg (R.peek i) h
      simpa [load, R.peek_xor, R.peek_lane_self i _ (show i < k by omega),
        R.peek_load_of_lt i (i + 1) bs (by omega) (by omega),
        R.peek_load_of_lt i (i + 1) bs' (by omega) (by omega)] using hpeek
    subst hhead
    rw [ih (i + 1) bs' (by omega) (by omega) ((BitVec.xor_right_inj _).mp h)]

/-- **Burst detection.**  Two messages that agree outside a window of at most
`k` bytes, and differ inside it, leave different remainders. -/
theorem feed_burst_ne (pre x y post : List UInt8) (hlen : x.length = y.length) (hk : x.length ≤ k)
    (hne : x ≠ y) : R.feed s (pre ++ (x ++ post)) ≠ R.feed s (pre ++ (y ++ post)) := by
  intro h
  simp only [feed_append] at h
  have hblock : R.feed (R.feed s pre) x = R.feed (R.feed s pre) y := R.feed_injective post h
  rw [R.feed_block _ x hk, R.feed_block _ y (by omega), ← hlen] at hblock
  have hload := R.advance_injective.iterate x.length hblock
  exact hne (R.load_injective 0 x y hlen (by omega) ((BitVec.xor_right_inj _).mp hload))

end ByteRegister

/-! ## Linear maps for exclusive or -/

theorem iterate_xor {f : BitVec w → BitVec w} (hf : ∀ a b, f (a ^^^ b) = f a ^^^ f b)
    (n : ℕ) (a b : BitVec w) : f^[n] (a ^^^ b) = f^[n] a ^^^ f^[n] b := by
  induction n generalizing a b with
  | zero => rfl
  | succ n ih => simp only [Function.iterate_succ_apply, hf, ih]

/-- A linear map whose only root is zero is injective. -/
theorem injective_of_xor {f : BitVec w → BitVec w}
    (hf : ∀ a b, f (a ^^^ b) = f a ^^^ f b) (hroot : ∀ c, f c = 0#w → c = 0#w) :
    Function.Injective f := by
  intro a b h
  have hzero : f (a ^^^ b) = 0#w := by rw [hf, h, BitVec.xor_self]
  exact BitVec.xor_eq_zero_iff.mp (hroot _ hzero)

private theorem xor_xor_cancel (p a b : BitVec w) : p ^^^ a ^^^ (p ^^^ b) = a ^^^ b := by
  rw [BitVec.xor_comm p a, BitVec.xor_assoc, ← BitVec.xor_assoc p p b, BitVec.xor_self,
    BitVec.zero_xor]

/-- The byte of a register from bit `n` on. -/
def byteAt (n : ℕ) (c : BitVec w) : UInt8 :=
  UInt8.ofBitVec (c.extractLsb' n 8)

theorem byteAt_xor (n : ℕ) (a b : BitVec w) : byteAt n (a ^^^ b) = byteAt n a ^^^ byteAt n b := by
  apply UInt8.eq_of_toBitVec_eq
  simp [byteAt, BitVec.extractLsb'_xor]

theorem byteAt_shiftLeft_self {n : ℕ} (b : UInt8) (h : n + 8 ≤ w) :
    byteAt n (b.toBitVec.setWidth w <<< n) = b := by
  apply UInt8.eq_of_toBitVec_eq
  apply BitVec.eq_of_getLsbD_eq
  intro i hi
  simp only [byteAt, BitVec.getLsbD_extractLsb', BitVec.getLsbD_shiftLeft, BitVec.getLsbD_setWidth]
  grind

theorem byteAt_shiftLeft_of_apart {n m : ℕ} (b : UInt8) (h : n + 8 ≤ m ∨ m + 8 ≤ n) :
    byteAt n (b.toBitVec.setWidth w <<< m) = 0 := by
  apply UInt8.eq_of_toBitVec_eq
  apply BitVec.eq_of_getLsbD_eq
  intro i hi
  simp only [byteAt, BitVec.getLsbD_extractLsb', BitVec.getLsbD_shiftLeft, BitVec.getLsbD_setWidth,
    UInt8.toBitVec_zero, BitVec.getLsbD_zero]
  grind

/-! ## Least significant bit first -/

/-- One bit of a reflected register with generator `p`. -/
def reflectedBit (p c : BitVec w) : BitVec w :=
  if c.getLsbD 0 then p ^^^ (c >>> 1) else c >>> 1

theorem reflectedBit_xor (p a b : BitVec w) :
    reflectedBit p (a ^^^ b) = reflectedBit p a ^^^ reflectedBit p b := by
  unfold reflectedBit
  rw [BitVec.getLsbD_xor, BitVec.ushiftRight_xor_distrib]
  cases a.getLsbD 0 <;> cases b.getLsbD 0
  · simp
  · simp only [Bool.false_xor, if_true, Bool.false_eq_true, if_false]
    ac_rfl
  · simp only [Bool.true_xor, Bool.not_false, if_true, Bool.false_eq_true, if_false]
    ac_rfl
  · simp [xor_xor_cancel]

theorem reflectedBit_eq_zero {p : BitVec w} (hp : p.msb = true) {c : BitVec w}
    (h : reflectedBit p c = 0#w) : c = 0#w := by
  unfold reflectedBit at h
  split at h
  · have hmsb := congrArg BitVec.msb h
    simp [hp, BitVec.msb_ushiftRight] at hmsb
  · rename_i hlow
    apply BitVec.eq_of_getLsbD_eq
    intro i _
    cases i with
    | zero => simpa using hlow
    | succ i =>
      have hbit := congrArg (fun x => x.getLsbD i) h
      simpa [BitVec.getLsbD_ushiftRight, Nat.add_comm] using hbit

/-- Zero bits leave a reflected register by plain shifts. -/
theorem reflectedBit_iterate_of_low (p : BitVec w) (n : ℕ) (c : BitVec w)
    (h : ∀ i < n, c.getLsbD i = false) : (reflectedBit p)^[n] c = c >>> n := by
  induction n generalizing c with
  | zero => simp
  | succ n ih =>
    have hbit : reflectedBit p c = c >>> 1 := by simp [reflectedBit, h 0 (by omega)]
    rw [Function.iterate_succ_apply, hbit, ih, ← BitVec.shiftRight_add, Nat.add_comm]
    intro i hi
    rw [BitVec.getLsbD_ushiftRight]
    exact h (1 + i) (by omega)

/-- The reflected register of width `8 * k` for the generator `p`. -/
def reflected (p : BitVec w) (hp : p.msb = true) (hw : w = 8 * k) : ByteRegister w k where
  advance := (reflectedBit p)^[8]
  lane i b := b.toBitVec.setWidth w <<< (8 * i)
  peek i := byteAt (8 * i)
  advance_xor := iterate_xor (reflectedBit_xor p) 8
  advance_injective :=
    (injective_of_xor (reflectedBit_xor p) fun _ => reflectedBit_eq_zero hp).iterate 8
  advance_lane i b hi := by
    rw [reflectedBit_iterate_of_low]
    · apply BitVec.eq_of_getLsbD_eq
      intro j hj
      simp only [BitVec.getLsbD_ushiftRight, BitVec.getLsbD_shiftLeft, BitVec.getLsbD_setWidth]
      grind
    · intro j hj
      simp only [BitVec.getLsbD_shiftLeft]
      grind
  peek_xor i := byteAt_xor _
  peek_lane_self i b hi := byteAt_shiftLeft_self b (by omega)
  peek_lane_of_lt i j b hij hj := byteAt_shiftLeft_of_apart b (by omega)

/-- The identity behind a table-driven reflected implementation: eight bits move
the register down a byte and add the image of the byte that left. -/
theorem reflectedBit_iterate_table (p c : BitVec w) :
    (reflectedBit p)^[8] c = (reflectedBit p)^[8] ((c.setWidth 8).setWidth w) ^^^ (c >>> 8) := by
  have hlow : ∀ i < 8, (c ^^^ (c.setWidth 8).setWidth w).getLsbD i = false := by
    intro i hi
    simp only [BitVec.getLsbD_xor, BitVec.getLsbD_setWidth]
    grind
  have hhigh : (c ^^^ (c.setWidth 8).setWidth w) >>> 8 = c >>> 8 := by
    apply BitVec.eq_of_getLsbD_eq
    intro i _
    simp only [BitVec.getLsbD_ushiftRight, BitVec.getLsbD_xor, BitVec.getLsbD_setWidth]
    grind
  have hsplit : (c.setWidth 8).setWidth w ^^^ (c ^^^ (c.setWidth 8).setWidth w) = c := by
    rw [BitVec.xor_comm c, ← BitVec.xor_assoc, BitVec.xor_self, BitVec.zero_xor]
  calc (reflectedBit p)^[8] c
      = (reflectedBit p)^[8]
          ((c.setWidth 8).setWidth w ^^^ (c ^^^ (c.setWidth 8).setWidth w)) := by rw [hsplit]
    _ = (reflectedBit p)^[8] ((c.setWidth 8).setWidth w) ^^^
          (reflectedBit p)^[8] (c ^^^ (c.setWidth 8).setWidth w) :=
        iterate_xor (reflectedBit_xor p) 8 _ _
    _ = (reflectedBit p)^[8] ((c.setWidth 8).setWidth w) ^^^ (c >>> 8) := by
        rw [reflectedBit_iterate_of_low p 8 _ hlow, hhigh]

/-! ## Most significant bit first -/

/-- One bit of an unreflected register with generator `p`. -/
def msbFirstBit (p c : BitVec w) : BitVec w :=
  if c.msb then (c <<< 1) ^^^ p else c <<< 1

theorem msbFirstBit_xor (p a b : BitVec w) :
    msbFirstBit p (a ^^^ b) = msbFirstBit p a ^^^ msbFirstBit p b := by
  unfold msbFirstBit
  rw [BitVec.msb_xor, BitVec.shiftLeft_xor_distrib]
  cases a.msb <;> cases b.msb
  · simp
  · simp only [Bool.false_xor, if_true, Bool.false_eq_true, if_false]
    ac_rfl
  · simp only [Bool.true_xor, Bool.not_false, if_true, Bool.false_eq_true, if_false]
    ac_rfl
  · rw [BitVec.xor_comm (a <<< 1) p, BitVec.xor_comm (b <<< 1) p]
    simp [xor_xor_cancel]

theorem msbFirstBit_eq_zero {p : BitVec w} (hp : p.getLsbD 0 = true) {c : BitVec w}
    (h : msbFirstBit p c = 0#w) : c = 0#w := by
  unfold msbFirstBit at h
  split at h
  · have hbit := congrArg (fun x => x.getLsbD 0) h
    simp [hp] at hbit
  · rename_i htop
    apply BitVec.eq_of_getLsbD_eq
    intro i hi
    by_cases hlast : i + 1 < w
    · have hbit := congrArg (fun x => x.getLsbD (i + 1)) h
      simpa [BitVec.getLsbD_shiftLeft, hlast, BitVec.getLsbD_eq_getElem hi] using hbit
    · rw [BitVec.msb_eq_getLsbD_last] at htop
      obtain rfl : i = w - 1 := by omega
      simpa using htop

/-- Zero bits leave an unreflected register by plain shifts. -/
theorem msbFirstBit_iterate_of_high (p : BitVec w) (n : ℕ) (c : BitVec w)
    (h : ∀ i, w ≤ i + n → c.getLsbD i = false) : (msbFirstBit p)^[n] c = c <<< n := by
  induction n generalizing c with
  | zero => simp
  | succ n ih =>
    have hbit : msbFirstBit p c = c <<< 1 := by
      simp [msbFirstBit, BitVec.msb_eq_getLsbD_last, h (w - 1) (by omega)]
    rw [Function.iterate_succ_apply, hbit, ih, ← BitVec.shiftLeft_add, Nat.add_comm]
    intro i hi
    rw [BitVec.getLsbD_shiftLeft]
    by_cases hzero : i < 1
    · simp [hzero]
    · simp [h (i - 1) (by omega)]

/-- The unreflected register of width `8 * k` for the generator `p`. -/
def msbFirst (p : BitVec w) (hp : p.getLsbD 0 = true) (hw : w = 8 * k) : ByteRegister w k where
  advance := (msbFirstBit p)^[8]
  lane i b := b.toBitVec.setWidth w <<< (w - 8 * (i + 1))
  peek i := byteAt (w - 8 * (i + 1))
  advance_xor := iterate_xor (msbFirstBit_xor p) 8
  advance_injective :=
    (injective_of_xor (msbFirstBit_xor p) fun _ => msbFirstBit_eq_zero hp).iterate 8
  advance_lane i b hi := by
    rw [msbFirstBit_iterate_of_high, ← BitVec.shiftLeft_add]
    · congr 1
      omega
    · intro j hj
      simp only [BitVec.getLsbD_shiftLeft, BitVec.getLsbD_setWidth]
      grind
  peek_xor i := byteAt_xor _
  peek_lane_self i b hi := byteAt_shiftLeft_self b (by omega)
  peek_lane_of_lt i j b hij hj := byteAt_shiftLeft_of_apart b (by omega)

/-- The byte at the top of an unreflected register, in place. -/
def topByte (c : BitVec w) : BitVec w :=
  ((c >>> (w - 8)).setWidth 8).setWidth w <<< (w - 8)

/-- The identity behind a table-driven unreflected implementation. -/
theorem msbFirstBit_iterate_table (p c : BitVec w) (hw : 8 ≤ w) :
    (msbFirstBit p)^[8] c = (c <<< 8) ^^^ (msbFirstBit p)^[8] (topByte c) := by
  have hhigh : ∀ i, w ≤ i + 8 → (c ^^^ topByte c).getLsbD i = false := by
    intro i hi
    simp only [topByte, BitVec.getLsbD_xor, BitVec.getLsbD_shiftLeft, BitVec.getLsbD_setWidth,
      BitVec.getLsbD_ushiftRight]
    grind
  have hlow : (c ^^^ topByte c) <<< 8 = c <<< 8 := by
    apply BitVec.eq_of_getLsbD_eq
    intro i _
    simp only [topByte, BitVec.getLsbD_xor, BitVec.getLsbD_shiftLeft, BitVec.getLsbD_setWidth,
      BitVec.getLsbD_ushiftRight]
    grind
  have hsplit : (c ^^^ topByte c) ^^^ topByte c = c := by
    rw [BitVec.xor_assoc, BitVec.xor_self, BitVec.xor_zero]
  calc (msbFirstBit p)^[8] c
      = (msbFirstBit p)^[8] ((c ^^^ topByte c) ^^^ topByte c) := by rw [hsplit]
    _ = (msbFirstBit p)^[8] (c ^^^ topByte c) ^^^ (msbFirstBit p)^[8] (topByte c) :=
        iterate_xor (msbFirstBit_xor p) 8 _ _
    _ = (c <<< 8) ^^^ (msbFirstBit p)^[8] (topByte c) := by
        rw [msbFirstBit_iterate_of_high p 8 _ hhigh, hlow]

end ShiftRegister
