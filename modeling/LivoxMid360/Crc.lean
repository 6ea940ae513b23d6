import LivoxMid360.Lib.ShiftRegister
import Mathlib.Tactic.NormNum

/-!
# The two checksums of the wire protocol

`crc.hpp` computes CRC-16/CCITT-FALSE and CRC-32 from two 256-entry tables that
the compiler evaluates.  The tables, the loops and the running `state` argument
are transcribed here; `crc16Register` and `crc32Register` are the linear
registers they implement.

* `crc16CcittFalse_toBitVec` and `crc32_toBitVec` identify the table-driven
  loops with the registers.  Every later fact about a checksum goes through
  them, so the tables are unfolded here only.
* `crc16CcittFalse_burst_ne` and `crc32_burst_ne` are burst detection for the
  two algorithms: 2 and 4 bytes wide.
-/

namespace LivoxMid360

open ShiftRegister

namespace Crc

/-! ## The tables -/

/-- Body of the inner loop of `make_crc16_table`. -/
def crc16TableBit (c : UInt16) : UInt16 :=
  if c &&& 0x8000 ≠ 0 then (c <<< 1) ^^^ 0x1021 else c <<< 1

/-- Body of the inner loop of `make_crc32_table`; `0xEDB88320` is the reflected
form of `0x04C11DB7`. -/
def crc32TableBit (c : UInt32) : UInt32 :=
  if c &&& 1 ≠ 0 then (0xEDB88320 : UInt32) ^^^ (c >>> 1) else c >>> 1

def makeCrc16Table : Vector UInt16 256 :=
  Vector.ofFn fun i => crc16TableBit^[8] (UInt16.ofNat i.val <<< 8)

def makeCrc32Table : Vector UInt32 256 :=
  Vector.ofFn fun i => crc32TableBit^[8] (UInt32.ofNat i.val)

def kCrc16Table : Vector UInt16 256 := makeCrc16Table

def kCrc32Table : Vector UInt32 256 := makeCrc32Table

/-! ## The loops -/

/-- One byte of `crc16_ccitt_false`. -/
def crc16Step (state : UInt16) (b : UInt8) : UInt16 :=
  let idx := (state >>> 8).toUInt8 ^^^ b
  (state <<< 8) ^^^ kCrc16Table.get idx.toFin

variable (data : List UInt8)

/-- `crc16_ccitt_false`; a previous result as `state` continues it. -/
def crc16CcittFalse (state : UInt16 := 0xFFFF) : UInt16 :=
  data.foldl crc16Step state

/-- One byte of `crc32`. -/
def crc32Step (c : UInt32) (b : UInt8) : UInt32 :=
  kCrc32Table.get (c ^^^ b.toUInt32).toUInt8.toFin ^^^ (c >>> 8)

/-- `crc32`; the previous *final* result as `state` continues it. -/
def crc32 (state : UInt32 := 0) : UInt32 :=
  data.foldl crc32Step (state ^^^ 0xFFFFFFFF) ^^^ 0xFFFFFFFF

/-! ## The registers they implement -/

/-- CRC-16/CCITT-FALSE: unreflected, generator `0x1021`, two byte lanes. -/
def crc16Register : ByteRegister 16 2 :=
  msbFirst 0x1021#16 (by decide) rfl

/-- CRC-32: reflected, generator `0xEDB88320`, four byte lanes. -/
def crc32Register : ByteRegister 32 4 :=
  reflected 0xEDB88320#32 (by decide) rfl

/-- Masking a single bit tests it. -/
private theorem and_twoPow_ne_zero {w : ℕ} (x : BitVec w) (i : ℕ) (hi : i < w) :
    (x &&& BitVec.twoPow w i ≠ 0#w) ↔ x.getLsbD i = true := by
  rw [BitVec.and_twoPow]
  split
  · rename_i hbit
    have hne : BitVec.twoPow w i ≠ 0#w := by
      intro h
      have := congrArg (fun y => y.getLsbD i) h
      simp [hi] at this
    simp [hbit, hne]
  · rename_i hbit
    simp [hbit]

theorem crc16TableBit_toBitVec (c : UInt16) :
    (crc16TableBit c).toBitVec = msbFirstBit 0x1021#16 c.toBitVec := by
  have htop : (c &&& 0x8000 ≠ 0) ↔ c.toBitVec.msb = true := by
    rw [Ne, ← UInt16.toBitVec_inj, UInt16.toBitVec_and, BitVec.msb_eq_getLsbD_last]
    exact and_twoPow_ne_zero c.toBitVec 15 (by decide)
  unfold crc16TableBit msbFirstBit
  simp only [htop]
  split <;> simp

theorem crc32TableBit_toBitVec (c : UInt32) :
    (crc32TableBit c).toBitVec = reflectedBit 0xEDB88320#32 c.toBitVec := by
  have hlow : (c &&& 1 ≠ 0) ↔ c.toBitVec.getLsbD 0 = true := by
    rw [Ne, ← UInt32.toBitVec_inj, UInt32.toBitVec_and]
    exact and_twoPow_ne_zero c.toBitVec 0 (by decide)
  unfold crc32TableBit reflectedBit
  simp only [hlow]
  split <;> simp

theorem crc16TableBit_iterate_toBitVec (n : ℕ) (c : UInt16) :
    (crc16TableBit^[n] c).toBitVec = (msbFirstBit 0x1021#16)^[n] c.toBitVec := by
  induction n generalizing c with
  | zero => rfl
  | succ n ih => rw [Function.iterate_succ_apply, Function.iterate_succ_apply, ih,
      crc16TableBit_toBitVec]

theorem crc32TableBit_iterate_toBitVec (n : ℕ) (c : UInt32) :
    (crc32TableBit^[n] c).toBitVec = (reflectedBit 0xEDB88320#32)^[n] c.toBitVec := by
  induction n generalizing c with
  | zero => rfl
  | succ n ih => rw [Function.iterate_succ_apply, Function.iterate_succ_apply, ih,
      crc32TableBit_toBitVec]

private theorem vector_ofFn_get {α : Type} {n : ℕ} (f : Fin n → α) (i : Fin n) :
    (Vector.ofFn f).get i = f i := by
  simp only [Vector.get, Vector.toArray_ofFn, Array.getElem_ofFn]
  rfl

theorem kCrc16Table_get (i : UInt8) :
    (kCrc16Table.get i.toFin).toBitVec =
      (msbFirstBit 0x1021#16)^[8] (i.toBitVec.setWidth 16 <<< 8) := by
  have hindex : (UInt16.ofNat i.toFin.val).toBitVec = i.toBitVec.setWidth 16 := by
    apply BitVec.eq_of_toNat_eq
    simp
  rw [kCrc16Table, makeCrc16Table, vector_ofFn_get, crc16TableBit_iterate_toBitVec,
    UInt16.toBitVec_shiftLeft, hindex]
  rfl

theorem kCrc32Table_get (i : UInt8) :
    (kCrc32Table.get i.toFin).toBitVec =
      (reflectedBit 0xEDB88320#32)^[8] (i.toBitVec.setWidth 32) := by
  have hindex : (UInt32.ofNat i.toFin.val).toBitVec = i.toBitVec.setWidth 32 := by
    apply BitVec.eq_of_toNat_eq
    simp
  rw [kCrc32Table, makeCrc32Table, vector_ofFn_get, crc32TableBit_iterate_toBitVec, hindex]

/-- A byte of the CRC-16 loop is a byte of its register. -/
theorem crc16Step_toBitVec (state : UInt16) (b : UInt8) :
    (crc16Step state b).toBitVec = crc16Register.step state.toBitVec b := by
  have hindex : ((state >>> 8).toUInt8 ^^^ b).toBitVec.setWidth 16 <<< 8 =
      topByte (state.toBitVec ^^^ (b.toBitVec.setWidth 16 <<< 8)) := by
    unfold topByte
    congr 2
    apply BitVec.eq_of_getLsbD_eq
    intro i hi
    simp
    grind
  have hshift : (state.toBitVec ^^^ (b.toBitVec.setWidth 16 <<< 8)) <<< 8 =
      state.toBitVec <<< 8 := by
    apply BitVec.eq_of_getLsbD_eq
    intro i hi
    simp only [BitVec.getLsbD_xor, BitVec.getLsbD_shiftLeft, BitVec.getLsbD_setWidth]
    grind
  have hlane : crc16Register.step state.toBitVec b =
      (msbFirstBit 0x1021#16)^[8] (state.toBitVec ^^^ (b.toBitVec.setWidth 16 <<< 8)) := by
    simp [ByteRegister.step, crc16Register, msbFirst]
  rw [hlane, msbFirstBit_iterate_table _ _ (by decide), hshift, crc16Step, UInt16.toBitVec_xor,
    kCrc16Table_get, hindex]
  rfl

/-- A byte of the CRC-32 loop is a byte of its register. -/
theorem crc32Step_toBitVec (c : UInt32) (b : UInt8) :
    (crc32Step c b).toBitVec = crc32Register.step c.toBitVec b := by
  have hindex : (c ^^^ b.toUInt32).toUInt8.toBitVec.setWidth 32 =
      ((c.toBitVec ^^^ b.toBitVec.setWidth 32).setWidth 8).setWidth 32 := by simp
  have hshift : (c.toBitVec ^^^ b.toBitVec.setWidth 32) >>> 8 = c.toBitVec >>> 8 := by
    apply BitVec.eq_of_getLsbD_eq
    intro i hi
    simp only [BitVec.getLsbD_xor, BitVec.getLsbD_ushiftRight, BitVec.getLsbD_setWidth]
    grind
  have hlane : crc32Register.step c.toBitVec b =
      (reflectedBit 0xEDB88320#32)^[8] (c.toBitVec ^^^ b.toBitVec.setWidth 32) := by
    simp [ByteRegister.step, crc32Register, reflected]
  rw [hlane, reflectedBit_iterate_table, hshift, crc32Step, UInt32.toBitVec_xor,
    kCrc32Table_get, hindex]
  rfl

/-- **The CRC-16 loop computes its register.** -/
theorem crc16CcittFalse_toBitVec (state : UInt16) :
    (crc16CcittFalse data state).toBitVec = crc16Register.feed state.toBitVec data := by
  induction data generalizing state with
  | nil => rfl
  | cons b bs ih =>
    rw [crc16CcittFalse, List.foldl_cons, ← crc16CcittFalse, ih, crc16Step_toBitVec]
    rfl

theorem crc32Loop_toBitVec (c : UInt32) :
    (data.foldl crc32Step c).toBitVec = crc32Register.feed c.toBitVec data := by
  induction data generalizing c with
  | nil => rfl
  | cons b bs ih =>
    rw [List.foldl_cons, ih, crc32Step_toBitVec]
    rfl

/-- **The CRC-32 loop computes its register**, between the two complements. -/
theorem crc32_toBitVec (state : UInt32) :
    (crc32 data state).toBitVec =
      crc32Register.feed (state.toBitVec ^^^ 0xFFFFFFFF#32) data ^^^ 0xFFFFFFFF#32 := by
  rw [crc32, UInt32.toBitVec_xor, crc32Loop_toBitVec, UInt32.toBitVec_xor]
  rfl

/-! ## Bursts -/

/-- Two messages that differ only inside a window of two bytes have different
CRC-16. -/
theorem crc16CcittFalse_burst_ne (pre x y post : List UInt8) (hlen : x.length = y.length)
    (hwin : x.length ≤ 2) (hne : x ≠ y) :
    crc16CcittFalse (pre ++ (x ++ post)) ≠ crc16CcittFalse (pre ++ (y ++ post)) := by
  intro h
  have hbits := congrArg UInt16.toBitVec h
  rw [crc16CcittFalse_toBitVec, crc16CcittFalse_toBitVec] at hbits
  exact crc16Register.feed_burst_ne _ pre x y post hlen hwin hne hbits

/-- Two messages that differ only inside a window of four bytes have different
CRC-32. -/
theorem crc32_burst_ne (pre x y post : List UInt8) (hlen : x.length = y.length)
    (hwin : x.length ≤ 4) (hne : x ≠ y) :
    crc32 (pre ++ (x ++ post)) ≠ crc32 (pre ++ (y ++ post)) := by
  intro h
  have hbits := congrArg UInt32.toBitVec h
  rw [crc32_toBitVec, crc32_toBitVec] at hbits
  exact crc32Register.feed_burst_ne _ pre x y post hlen hwin hne
    ((BitVec.xor_left_inj _).mp hbits)

end Crc

end LivoxMid360
