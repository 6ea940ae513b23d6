import LivoxMid360.PythonReference

/-!
# Python's `struct.pack`

The other direction of `struct`: packing integers and byte strings.  An integer that does
not fit into its field raises `struct.error`; a byte string is cut or filled up with zeros
to the length of its field.

`packWord_toNat` connects packing to the words of the C++ side: the number of a word packs
to the bytes of that word.
-/

namespace LivoxMid360

open LittleEndian

namespace Python

/-- An argument of `struct.pack`. -/
inductive Arg where
  | int (n : ℤ)
  | bytes (bs : List UInt8)

/-- An unsigned field of `size` bytes. -/
def packWord (size : ℕ) (n : ℤ) : Except Exn (List UInt8) :=
  if 0 ≤ n ∧ n.toNat < 256 ^ size then .ok (leBytes size n.toNat) else .error .structError

/-- A signed field of `size` bytes, in two's complement. -/
def packSigned (size : ℕ) (n : ℤ) : Except Exn (List UInt8) :=
  let range : ℕ := 256 ^ size
  if -(range : ℤ) ≤ 2 * n ∧ 2 * n < range then .ok (leBytes size (n % range).toNat)
  else .error .structError

/-- One field of `struct.pack`. -/
def Code.pack : Code → Arg → Except Exn (List UInt8)
  | .s n, .bytes bs => .ok (padded n bs)
  | .s _, .int _ => .error .structError
  | c, .int n => packWord c.size n
  | _, .bytes _ => .error .structError

/-- `struct.pack`. -/
def pack : List Code → List Arg → Except Exn (List UInt8)
  | [], [] => .ok []
  | c :: cs, a :: args =>
    match c.pack a with
    | .error x => .error x
    | .ok b =>
      match pack cs args with
      | .error x => .error x
      | .ok bs => .ok (b ++ bs)
  | _, _ => .error .structError

/-- An exception of the simulator: the `TypeError` of `len(None)`, or one of the library. -/
inductive PushExn where
  | typeError
  | exn (x : Exn)
deriving DecidableEq, Repr

/-- `encode_kv_list`, on values that may be `None`. -/
def encodeKvList : List (ℕ × Option (List UInt8)) → Except PushExn (List UInt8)
  | [] => .ok []
  -- `len(None)`
  | (_, none) :: _ => .error .typeError
  | (k, some v) :: kvs =>
    match pack [.H, .H] [.int k, .int v.length] with
    | .error x => .error (.exn x)
    | .ok head =>
      match encodeKvList kvs with
      | .error x => .error x
      | .ok rest => .ok (head ++ v ++ rest)

/-- The number of a word packs to its bytes. -/
theorem packWord_toNat {α : Type} [LeWord α] (a : α) :
    packWord (LeWord.size α) (LeWord.toNat a) = .ok (encodeLe a) := by
  rw [packWord, Int.toNat_natCast, if_pos ⟨Int.natCast_nonneg _, LeWord.toNat_lt a⟩, encodeLe]

theorem pack_cons {c : Code} {a : Arg} {cs : List Code} {args : List Arg} {b bs : List UInt8}
    (hfield : c.pack a = .ok b) (hrest : pack cs args = .ok bs) :
    pack (c :: cs) (a :: args) = .ok (b ++ bs) := by
  rw [pack, hfield, hrest]

/-- A number that fits is packed. -/
theorem packWord_of_range (size : ℕ) (n : ℤ) (h : 0 ≤ n ∧ n.toNat < 256 ^ size) :
    ∃ bs, packWord size n = .ok bs ∧ bs.length = size :=
  ⟨_, if_pos h, leBytes_length ..⟩

theorem packSigned_of_range (size : ℕ) (n : ℤ)
    (h : -((256 ^ size : ℕ) : ℤ) ≤ 2 * n ∧ 2 * n < (256 ^ size : ℕ)) :
    ∃ bs, packSigned size n = .ok bs ∧ bs.length = size :=
  ⟨_, if_pos h, leBytes_length ..⟩

/-- So is a list of them. -/
theorem pack_words (codes : List ℤ) (h : ∀ code ∈ codes, 0 ≤ code ∧ code.toNat < 256 ^ 4) :
    ∃ bs, pack (List.replicate codes.length .I) (codes.map .int) = .ok bs ∧
      bs.length = 4 * codes.length := by
  induction codes with
  | nil => exact ⟨[], rfl, rfl⟩
  | cons code codes ih =>
    obtain ⟨bs, hrest, hlength⟩ := ih fun c hc => h c (by simp [hc])
    obtain ⟨b, hfirst, hsize⟩ := packWord_of_range 4 code (h code (by simp))
    have hcode : Code.pack .I (.int code) = .ok b := hfirst
    refine ⟨b ++ bs, ?_, ?_⟩
    · rw [List.length_cons, List.replicate_succ, List.map_cons]
      exact pack_cons hcode hrest
    · rw [List.length_append, hsize, hlength, List.length_cons]
      omega

theorem pack_B (b : UInt8) : Code.pack .B (.int b.toNat) = .ok (encodeLe b) :=
  packWord_toNat b

theorem pack_H (w : UInt16) : Code.pack .H (.int w.toNat) = .ok (encodeLe w) :=
  packWord_toNat w

end Python

end LivoxMid360
