import Mathlib.Data.Nat.Digits.Defs
import Mathlib.Data.Nat.Digits.Lemmas
import Mathlib.Data.List.Basic

/-!
# Little-endian byte strings

The byte representation of fixed-width unsigned integers, and the byte-buffer
operations a packed binary format is built from.  Nothing here knows a
particular format.

* `leValue bs` is the number a byte string denotes, least significant byte
  first, as `Nat.ofDigits 256`.
* `leBytes k n` is the `k`-byte representation of `n`, truncated modulo
  `256 ^ k`.  `leValue_leBytes` and `leBytes_leValue` say the two are inverse on
  their ranges.
* `slice bs off n` is the window `[off, off + n)` of a buffer, and
  `overwrite bs off new` stores `new` at `off` without changing the length.
  `overwrite_append` is the workhorse: a store right behind a known prefix
  extends that prefix, so a sequence of stores at consecutive offsets collapses
  into a concatenation.
* `padded n bs` is a byte string in a field of `n` bytes.
* `LeWord α` is a fixed-width unsigned integer type.  `encodeLe` and `decodeLe`
  are its byte representation, and `readLe` and `writeLe` are the accessors of a
  packed buffer.
-/

namespace LittleEndian

/-- The number denoted by a little-endian byte string. -/
def leValue (bs : List UInt8) : ℕ :=
  Nat.ofDigits 256 (bs.map UInt8.toNat)

/-- The `k` low-order bytes of `n`, least significant first. -/
def leBytes : ℕ → ℕ → List UInt8
  | 0, _ => []
  | k + 1, n => UInt8.ofNat n :: leBytes k (n / 256)

@[simp] theorem leValue_nil : leValue [] = 0 := rfl

@[simp] theorem leValue_cons (b : UInt8) (bs : List UInt8) :
    leValue (b :: bs) = b.toNat + 256 * leValue bs := by
  simp [leValue, Nat.ofDigits_cons]

@[simp] theorem leBytes_length (k n : ℕ) : (leBytes k n).length = k := by
  induction k generalizing n with
  | zero => rfl
  | succ k ih => simp [leBytes, ih]

/-- A `k`-byte string denotes a number below `256 ^ k`. -/
theorem leValue_lt (bs : List UInt8) : leValue bs < 256 ^ bs.length := by
  have digit : ∀ d ∈ bs.map UInt8.toNat, d < 256 := by
    intro d mem
    obtain ⟨b, -, rfl⟩ := List.mem_map.mp mem
    exact b.toNat_lt
  simpa [leValue] using Nat.ofDigits_lt_base_pow_length (by norm_num) digit

/-- Writing then reading recovers the number, modulo the width. -/
theorem leValue_leBytes (k n : ℕ) : leValue (leBytes k n) = n % 256 ^ k := by
  induction k generalizing n with
  | zero => simp [leBytes, Nat.mod_one]
  | succ k ih =>
    rw [leBytes, leValue_cons, ih, pow_succ', Nat.mod_mul, UInt8.toNat_ofNat']

/-- Reading then writing recovers the bytes. -/
theorem leBytes_leValue (bs : List UInt8) : leBytes bs.length (leValue bs) = bs := by
  induction bs with
  | nil => rfl
  | cons b bs ih =>
    have low : UInt8.ofNat (b.toNat + 256 * leValue bs) = b := by
      apply UInt8.toNat.inj
      have := b.toNat_lt
      rw [UInt8.toNat_ofNat']
      omega
    have high : (b.toNat + 256 * leValue bs) / 256 = leValue bs := by
      have := b.toNat_lt
      omega
    rw [leValue_cons, List.length_cons, leBytes, low, high, ih]

/-! ## Windows and stores -/

/-- The window of `n` bytes of a buffer starting at `off`. -/
def slice (bs : List UInt8) (off n : ℕ) : List UInt8 :=
  (bs.drop off).take n

/-- Store `new` at `off`, keeping every other byte. -/
def overwrite (bs : List UInt8) (off : ℕ) (new : List UInt8) : List UInt8 :=
  bs.take off ++ new ++ bs.drop (off + new.length)

/-- A byte string in a field of `n` bytes: cut, or filled up with zeros. -/
def padded (n : ℕ) (bs : List UInt8) : List UInt8 :=
  bs.take n ++ List.replicate (n - bs.length) 0

@[simp] theorem padded_length (n : ℕ) (bs : List UInt8) : (padded n bs).length = n := by
  simp only [padded, List.length_append, List.length_take, List.length_replicate]
  omega

variable {n : ℕ} {bs : List UInt8}

theorem padded_of_length (h : bs.length = n) : padded n bs = bs := by
  rw [padded, List.take_of_length_le (Nat.le_of_eq h), h, Nat.sub_self, List.replicate_zero,
    List.append_nil]

variable {pre : List UInt8} {off : ℕ}

/-- The window behind a prefix of known length. -/
theorem slice_append (h : pre.length = off) (bs : List UInt8) (n : ℕ) :
    slice (pre ++ bs) off n = bs.take n := by
  subst h
  simp [slice]

/-- A store behind a prefix of known length extends the prefix. -/
theorem overwrite_append (h : pre.length = off) (bs new : List UInt8) :
    overwrite (pre ++ bs) off new = (pre ++ new) ++ bs.drop new.length := by
  subst h
  simp [overwrite, List.drop_append]

/-- The window past a prefix. -/
theorem slice_append_of_le (h : pre.length ≤ off) :
    slice (pre ++ bs) off n = slice bs (off - pre.length) n := by
  simp [slice, List.drop_append, List.drop_eq_nil_of_le h]

/-- The window that is exactly the first chunk. -/
theorem slice_append_zero {x : List UInt8} (h : x.length = n) : slice (x ++ bs) 0 n = x := by
  simp [slice, ← h]

theorem drop_eq_slice_append (bs : List UInt8) (off n : ℕ) :
    bs.drop off = slice bs off n ++ bs.drop (off + n) := by
  rw [slice, ← List.drop_drop, List.take_append_drop]

theorem slice_take {k : ℕ} (h : off + k ≤ n) : slice (bs.take n) off k = slice bs off k := by
  rw [slice, slice, List.drop_take, List.take_take, Nat.min_eq_left (by omega)]

theorem slice_length (h : off + n ≤ bs.length) : (slice bs off n).length = n := by
  simp only [slice, List.length_take, List.length_drop]
  omega

/-- A record of a block of records of one size. -/
theorem slice_flatMap {α : Type*} {f : α → List UInt8} {k : ℕ} (hf : ∀ a, (f a).length = k)
    {xs : List α} {i : ℕ} (hi : i < xs.length) : slice (xs.flatMap f) (i * k) k = f xs[i] := by
  induction xs generalizing i with
  | nil => exact absurd hi (Nat.not_lt_zero i)
  | cons x xs ih =>
    rw [List.flatMap_cons]
    cases i with
    | zero =>
      rw [Nat.zero_mul, slice_append_zero (hf x)]
      rfl
    | succ i =>
      have hskip : (i + 1) * k - (f x).length = i * k := by
        rw [hf x, Nat.succ_mul, Nat.add_sub_cancel]
      rw [slice_append_of_le (by rw [hf x, Nat.succ_mul]; exact Nat.le_add_left ..), hskip]
      exact ih (Nat.lt_of_succ_lt_succ hi)

/-! ## Fixed-width integers -/

/-- An unsigned integer type of `size` bytes. -/
class LeWord (α : Type) where
  size : ℕ
  ofNat : ℕ → α
  toNat : α → ℕ
  toNat_lt : ∀ a, toNat a < 256 ^ size
  ofNat_toNat : ∀ a, ofNat (toNat a) = a
  toNat_ofNat : ∀ n, n < 256 ^ size → toNat (ofNat n) = n

instance : LeWord UInt8 where
  size := 1
  ofNat := UInt8.ofNat
  toNat := UInt8.toNat
  toNat_lt a := a.toNat_lt
  ofNat_toNat _ := UInt8.ofNat_toNat
  toNat_ofNat _ h := UInt8.toNat_ofNat_of_lt h

instance : LeWord UInt16 where
  size := 2
  ofNat := UInt16.ofNat
  toNat := UInt16.toNat
  toNat_lt a := a.toNat_lt
  ofNat_toNat _ := UInt16.ofNat_toNat
  toNat_ofNat _ h := UInt16.toNat_ofNat_of_lt h

instance : LeWord UInt32 where
  size := 4
  ofNat := UInt32.ofNat
  toNat := UInt32.toNat
  toNat_lt a := a.toNat_lt
  ofNat_toNat _ := UInt32.ofNat_toNat
  toNat_ofNat _ h := UInt32.toNat_ofNat_of_lt h

instance : LeWord UInt64 where
  size := 8
  ofNat := UInt64.ofNat
  toNat := UInt64.toNat
  toNat_lt a := a.toNat_lt
  ofNat_toNat _ := UInt64.ofNat_toNat
  toNat_ofNat _ h := UInt64.toNat_ofNat_of_lt h

@[simp] theorem size_uint8 : LeWord.size UInt8 = 1 := rfl
@[simp] theorem size_uint16 : LeWord.size UInt16 = 2 := rfl
@[simp] theorem size_uint32 : LeWord.size UInt32 = 4 := rfl
@[simp] theorem size_uint64 : LeWord.size UInt64 = 8 := rfl

section Word

variable {α : Type} [LeWord α]

/-- The bytes of a word. -/
def encodeLe (a : α) : List UInt8 :=
  leBytes (LeWord.size α) (LeWord.toNat a)

/-- The word a byte string denotes. -/
def decodeLe (α : Type) [LeWord α] (bs : List UInt8) : α :=
  LeWord.ofNat (leValue bs)

@[simp] theorem encodeLe_length (a : α) : (encodeLe a).length = LeWord.size α := by
  simp [encodeLe]

@[simp] theorem decodeLe_encodeLe (a : α) : decodeLe α (encodeLe a) = a := by
  rw [decodeLe, encodeLe, leValue_leBytes, Nat.mod_eq_of_lt (LeWord.toNat_lt a), LeWord.ofNat_toNat]

variable {bs : List UInt8}

theorem encodeLe_decodeLe (h : bs.length = LeWord.size α) : encodeLe (decodeLe α bs) = bs := by
  have hlt : leValue bs < 256 ^ LeWord.size α := h ▸ leValue_lt bs
  rw [decodeLe, encodeLe, LeWord.toNat_ofNat _ hlt, ← h, leBytes_leValue]

/-- Read a word at an offset. -/
def readLe (α : Type) [LeWord α] (bs : List UInt8) (off : ℕ) : α :=
  decodeLe α (slice bs off (LeWord.size α))

/-- Store a word at an offset. -/
def writeLe (bs : List UInt8) (off : ℕ) (a : α) : List UInt8 :=
  overwrite bs off (encodeLe a)

variable {pre : List UInt8} {off : ℕ}

/-- A word is read back from behind a prefix of known length. -/
theorem readLe_append (h : pre.length = off) (a : α) (post : List UInt8) :
    readLe α (pre ++ (encodeLe a ++ post)) off = a := by
  rw [readLe, slice_append h, List.take_left' (encodeLe_length a), decodeLe_encodeLe]

theorem readLe_append_of_le (h : pre.length ≤ off) :
    readLe α (pre ++ bs) off = readLe α bs (off - pre.length) := by
  rw [readLe, readLe, slice_append_of_le h]

theorem readLe_append_zero (a : α) (bs : List UInt8) : readLe α (encodeLe a ++ bs) 0 = a := by
  rw [readLe, slice_append_zero (encodeLe_length a), decodeLe_encodeLe]

theorem readLe_encodeLe (a : α) : readLe α (encodeLe a) 0 = a := by
  have h := readLe_append_zero a []
  rwa [List.append_nil] at h

theorem writeLe_append (h : pre.length = off) (bs : List UInt8) (a : α) :
    writeLe (pre ++ bs) off a = (pre ++ encodeLe a) ++ bs.drop (LeWord.size α) := by
  rw [writeLe, overwrite_append h, encodeLe_length]

theorem readLe_take {n : ℕ} (h : off + LeWord.size α ≤ n) :
    readLe α (bs.take n) off = readLe α bs off := by
  rw [readLe, readLe, slice_take h]

/-- The word at an offset, written back, is what stands there. -/
theorem encodeLe_readLe (h : off + LeWord.size α ≤ bs.length) :
    encodeLe (readLe α bs off) = slice bs off (LeWord.size α) :=
  encodeLe_decodeLe (slice_length h)

/-- A buffer from an offset on is the word there and the rest. -/
theorem drop_eq_encodeLe_append (h : off + LeWord.size α ≤ bs.length) :
    bs.drop off = encodeLe (readLe α bs off) ++ bs.drop (off + LeWord.size α) := by
  rw [encodeLe_readLe h]
  exact drop_eq_slice_append bs off _

/-- A word of a record of a block of records of one size. -/
theorem readLe_flatMap {β : Type*} {f : β → List UInt8} {k : ℕ} (hf : ∀ b, (f b).length = k)
    {xs : List β} {i : ℕ} (hi : i < xs.length) (hoff : off + LeWord.size α ≤ k) :
    readLe α (xs.flatMap f) (i * k + off) = readLe α (f xs[i]) off := by
  rw [← slice_flatMap hf hi, readLe, readLe, slice, slice, slice, List.drop_take, List.take_take,
    List.drop_drop, Nat.min_eq_left (by omega)]

theorem readLe_flatMap_first {β : Type*} {f : β → List UInt8} {k : ℕ}
    (hf : ∀ b, (f b).length = k) {xs : List β} {i : ℕ} (hi : i < xs.length)
    (hk : LeWord.size α ≤ k) : readLe α (xs.flatMap f) (i * k) = readLe α (f xs[i]) 0 := by
  rw [← readLe_flatMap hf hi (by omega), Nat.add_zero]

/-- Copying a word from a buffer behind a copied prefix extends the copy. -/
theorem writeLe_readLe {rest : List UInt8} (h : off + LeWord.size α ≤ bs.length) :
    writeLe (bs.take off ++ rest) off (readLe α bs off) =
      bs.take (off + LeWord.size α) ++ rest.drop (LeWord.size α) := by
  have hpre : (bs.take off).length = off := by
    rw [List.length_take, Nat.min_eq_left (by omega)]
  rw [writeLe_append hpre, encodeLe_readLe h, slice, ← List.take_add]

end Word

end LittleEndian
