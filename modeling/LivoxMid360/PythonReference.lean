import LivoxMid360.Protocol
import Mathlib.Data.Nat.Bitwise

/-!
# The Python reference parsers

`tools/livox_mid360_proto.py` is a second, independent implementation of the wire
protocol.  It works on unbounded integers, decodes a whole header at once with
`struct.unpack_from`, computes its CRC-16 bit by bit and takes its CRC-32 from
zlib.  It is transcribed here in those terms; nothing is shared with the model of
the C++ parsers but byte strings.

`zlib.crc32` is taken to be the bitwise reflected CRC-32 with polynomial
`0xEDB88320` and initial and final value `0xFFFFFFFF`.

The agreement results are:

* `Python.crc16CcittFalse_eq` and `Python.zlibCrc32_eq`: the bitwise checksums
  are the table-driven ones;
* `Python.parseCommandFrame_agree`, `Python.parseDataPacket_agree` and
  `Python.parseKvList_agree`: on every input the two parsers reject with the same
  message or accept with the same fields;
* `Python.sampleTimestampNs_agree`: the sample times agree modulo `2 ^ 64`.

`Python.parsers_agree` is the whole comparison.  It needs one restriction: a count
above the `max_size()` of the C++ vector terminates the C++ process, while the
Python loop reports a truncated list (`parseKeyValueList_terminates`).
-/

namespace LivoxMid360

open LittleEndian ShiftRegister

namespace Python

/-! ## `struct` -/

/-- Format characters of `struct`, little-endian and unpadded (`<`). -/
inductive Code where
  | B
  | H
  | I
  | Q
  | s (n : ℕ)

def Code.size : Code → ℕ
  | B => 1
  | H => 2
  | I => 4
  | Q => 8
  | s n => n

/-- `struct.calcsize`. -/
def calcsize (fmt : List Code) : ℕ :=
  (fmt.map Code.size).sum

/-- A decoded field. -/
inductive Value where
  | int (n : ℕ)
  | bytes (bs : List UInt8)

def Code.decode (c : Code) (bs : List UInt8) : Value :=
  match c with
  | s _ => .bytes bs
  | _ => .int (leValue bs)

/-- An exception: a `ValueError` with its message, or `struct.error`. -/
inductive Exn where
  | valueError (msg : String)
  | structError
deriving DecidableEq, Repr

/-- `raise ValueError(msg)`. -/
def raise {α : Type} (msg : String) : Except Exn α :=
  .error (.valueError msg)

/-- The fields of a buffer that is long enough. -/
def unpack : List Code → List UInt8 → ℕ → List Value
  | [], _, _ => []
  | c :: cs, buf, off => c.decode (slice buf off c.size) :: unpack cs buf (off + c.size)

/-- `struct.unpack_from`. -/
def unpackFrom (fmt : List Code) (buf : List UInt8) (off : ℕ) : Except Exn (List Value) :=
  if buf.length - off < calcsize fmt then .error .structError
  else .ok (unpack fmt buf off)

/-- `buf[start:stop]` for `0 ≤ start`. -/
def sliced (buf : List UInt8) (start stop : ℕ) : List UInt8 :=
  (buf.take stop).drop start

/-! ## Checksums -/

/-- The innermost statement of `crc16_ccitt_false`. -/
def crc16Bit (crc : ℕ) : ℕ :=
  if crc &&& 0x8000 ≠ 0 then ((crc <<< 1) ^^^ 0x1021) &&& 0xFFFF else (crc <<< 1) &&& 0xFFFF

/-- `crc16_ccitt_false`. -/
def crc16CcittFalse (data : List UInt8) (init : ℕ := 0xFFFF) : ℕ :=
  data.foldl (fun crc b => crc16Bit^[8] (crc ^^^ (b.toNat <<< 8))) init

/-- One bit of the reflected CRC-32. -/
def crc32Bit (crc : ℕ) : ℕ :=
  if crc &&& 1 ≠ 0 then (crc >>> 1) ^^^ 0xEDB88320 else crc >>> 1

/-- `zlib.crc32`. -/
def zlibCrc32 (data : List UInt8) : ℕ :=
  data.foldl (fun crc b => crc32Bit^[8] (crc ^^^ b.toNat)) 0xFFFFFFFF ^^^ 0xFFFFFFFF

/-- `crc32`. -/
def crc32 (data : List UInt8) : ℕ :=
  zlibCrc32 data &&& 0xFFFFFFFF

/-! ## Parsers -/

def SOF : ℕ := 0xAA
def CMD_HEADER_SIZE : ℕ := 24
def CMD_FRAME_MAX : ℕ := 1400
def DATA_HEADER_SIZE : ℕ := 36

/-- `SAMPLE_SIZE`, a dictionary. -/
def SAMPLE_SIZE : ℕ → Option ℕ
  | 0 => some 24
  | 1 => some 14
  | 2 => some 8
  | 3 => some 10
  | _ => none

structure CommandFrame where
  seqNum : ℕ
  cmdId : ℕ
  cmdType : ℕ
  senderType : ℕ
  data : List UInt8
  resv : List UInt8
deriving DecidableEq, Repr

/-- `CommandFrame.parse`. -/
def CommandFrame.parse (frame : List UInt8) : Except Exn CommandFrame :=
  if frame.length < CMD_HEADER_SIZE then raise "too short"
  else match unpackFrom [.B, .B, .H, .I, .H, .B, .B, .s 6, .H, .I] frame 0 with
  | .error x => .error x
  | .ok [.int sof, .int ver, .int length, .int seq, .int cmdId, .int ctype, .int stype,
      .bytes resv, .int c16, .int c32] =>
      if sof ≠ SOF then raise "bad SOF"
      else if ver ≠ 0 then raise "bad version"
      else if length < CMD_HEADER_SIZE ∨ length > CMD_FRAME_MAX ∨ length > frame.length then
        raise "length mismatch"
      else if crc16CcittFalse (sliced frame 0 18) ≠ c16 then raise "bad CRC16"
      else
        let data := sliced frame CMD_HEADER_SIZE length
        if (if data = [] then 0 else crc32 data) ≠ c32 then raise "bad CRC32"
        else .ok ⟨seq, cmdId, ctype, stype, data, resv⟩
  | .ok _ => .error .structError

structure DataPacket where
  timeInterval : ℕ
  dotNum : ℕ
  udpCnt : ℕ
  frameCnt : ℕ
  dataType : ℕ
  timeType : ℕ
  timestampNs : ℕ
  data : List UInt8
  reserved : List UInt8
  version : ℕ
deriving DecidableEq, Repr

/-- `DataPacket.parse`. -/
def DataPacket.parse (pkt : List UInt8) (verifyCrc : Bool) : Except Exn DataPacket :=
  if pkt.length < DATA_HEADER_SIZE then raise "too short"
  else match unpackFrom [.B, .H, .H, .H, .H, .B, .B, .B, .s 12, .I, .Q] pkt 0 with
  | .error x => .error x
  | .ok [.int ver, .int length, .int ti, .int dn, .int uc, .int fc, .int dt, .int tt,
      .bytes rsv, .int c32, .int ts] =>
      if ver ≠ 0 then raise "bad version"
      else if length < DATA_HEADER_SIZE ∨ length > pkt.length then raise "length mismatch"
      else match SAMPLE_SIZE dt with
      | none => raise "unknown data_type"
      | some size =>
        let data := sliced pkt DATA_HEADER_SIZE length
        if data.length ≠ dn * size then raise "bad dot_num"
        else
          let crcEnd := 28 + 8 + data.length
          if verifyCrc ∧ c32 ≠ 0 ∧ crc32 (sliced pkt 28 crcEnd) ≠ c32 then raise "bad CRC32"
          else .ok ⟨ti, dn, uc, fc, dt, tt, ts, data, rsv, ver⟩
  | .ok _ => .error .structError

/-- `DataPacket.sample_timestamp_ns`. -/
def DataPacket.sampleTimestampNs (p : DataPacket) (i : ℕ) : ℕ :=
  if p.dotNum ≤ 1 ∨ i = 0 then p.timestampNs
  else p.timestampNs + (p.timeInterval * 100 * i) / (p.dotNum - 1)

/-- The loop of `parse_kv_list` with `n` turns left. -/
def parseKvLoop (buf : List UInt8) :
    ℕ → List (ℕ × List UInt8) → ℕ → Except Exn (List (ℕ × List UInt8))
  | 0, out, off => if off ≠ buf.length then raise "key_num mismatch" else .ok out
  | turns + 1, out, off =>
    if buf.length - off < 4 then raise "truncated"
    else match unpackFrom [.H, .H] buf off with
    | .error x => .error x
    | .ok [.int k, .int n] =>
      let off := off + 4
      if buf.length - off < n then raise "truncated"
      else
        let stop := off + n
        parseKvLoop buf turns (out ++ [(k, sliced buf off stop)]) stop
    | .ok _ => .error .structError

/-- `parse_kv_list`. -/
def parseKvList (buf : List UInt8) (keyNum : ℕ) : Except Exn (List (ℕ × List UInt8)) :=
  parseKvLoop buf keyNum [] 0

/-! ## The checksums agree -/

theorem crc16Bit_toNat (c : BitVec 16) : crc16Bit c.toNat = (msbFirstBit 0x1021#16 c).toNat := by
  have hmask : ∀ n : ℕ, n &&& 0xFFFF = n % 2 ^ 16 := fun n => Nat.and_two_pow_sub_one_eq_mod n 16
  have htop : (c.toNat &&& 0x8000 ≠ 0) ↔ c.msb = true := by
    have hbit : c.toNat &&& 2 ^ 15 = (c.toNat.testBit 15).toNat * 2 ^ 15 :=
      Nat.and_two_pow c.toNat 15
    rw [BitVec.msb_eq_getLsbD_last, BitVec.getLsbD, show (0x8000 : ℕ) = 2 ^ 15 from rfl, hbit]
    cases c.toNat.testBit (16 - 1) <;> simp_all
  unfold crc16Bit msbFirstBit
  simp only [htop, hmask]
  split
  · rw [BitVec.toNat_xor, BitVec.toNat_shiftLeft, Nat.xor_mod_two_pow]
    rfl
  · rw [BitVec.toNat_shiftLeft]

theorem crc32Bit_toNat (c : BitVec 32) :
    crc32Bit c.toNat = (reflectedBit 0xEDB88320#32 c).toNat := by
  have hlow : (c.toNat &&& 1 ≠ 0) ↔ c.getLsbD 0 = true := by
    rw [BitVec.getLsbD, Nat.and_one_is_mod, Nat.testBit_zero]
    simp
  unfold crc32Bit reflectedBit
  simp only [hlow]
  split
  · rw [BitVec.toNat_xor, BitVec.toNat_ushiftRight, Nat.xor_comm]
    rfl
  · rw [BitVec.toNat_ushiftRight]

/-- A step on integers that follows a step on words keeps following it. -/
theorem iterate_toNat {w : ℕ} {f : ℕ → ℕ} {g : BitVec w → BitVec w}
    (h : ∀ c, f c.toNat = (g c).toNat) (n : ℕ) (c : BitVec w) :
    f^[n] c.toNat = (g^[n] c).toNat := by
  induction n generalizing c with
  | zero => rfl
  | succ n ih => rw [Function.iterate_succ_apply, Function.iterate_succ_apply, h, ih]

theorem crc16CcittFalse_toNat (data : List UInt8) (s : BitVec 16) :
    crc16CcittFalse data s.toNat = (Crc.crc16Register.feed s data).toNat := by
  induction data generalizing s with
  | nil => rfl
  | cons b bs ih =>
    have hlane : s.toNat ^^^ (b.toNat <<< 8) =
        (s ^^^ (b.toBitVec.setWidth 16 <<< (16 - 8 * (0 + 1)))).toNat := by
      have hb := b.toNat_lt
      rw [BitVec.toNat_xor, BitVec.toNat_shiftLeft, BitVec.toNat_setWidth]
      simp only [UInt8.toNat_toBitVec, Nat.shiftLeft_eq]
      rw [Nat.mod_eq_of_lt (a := b.toNat) (by omega), Nat.mod_eq_of_lt (by omega)]
    have hstep : crc16Bit^[8] (s.toNat ^^^ (b.toNat <<< 8)) =
        (Crc.crc16Register.step s b).toNat := by
      rw [hlane, iterate_toNat crc16Bit_toNat]
      rfl
    rw [crc16CcittFalse, List.foldl_cons, hstep, ← crc16CcittFalse, ih, ByteRegister.feed_cons]

/-- **The bitwise CRC-16 is the table-driven one.** -/
theorem crc16CcittFalse_eq (data : List UInt8) :
    crc16CcittFalse data = (Crc.crc16CcittFalse data).toNat := by
  have hfeed := crc16CcittFalse_toNat data 0xFFFF#16
  rw [← UInt16.toNat_toBitVec, Crc.crc16CcittFalse_toBitVec]
  exact hfeed

theorem zlibLoop_toNat (data : List UInt8) (s : BitVec 32) :
    data.foldl (fun crc b => crc32Bit^[8] (crc ^^^ b.toNat)) s.toNat =
      (Crc.crc32Register.feed s data).toNat := by
  induction data generalizing s with
  | nil => rfl
  | cons b bs ih =>
    have hlane : s.toNat ^^^ b.toNat = (s ^^^ (b.toBitVec.setWidth 32 <<< (8 * 0))).toNat := by
      have hb := b.toNat_lt
      rw [BitVec.toNat_xor, BitVec.toNat_shiftLeft, BitVec.toNat_setWidth]
      simp only [UInt8.toNat_toBitVec, Nat.shiftLeft_eq]
      rw [Nat.mod_eq_of_lt (a := b.toNat) (by omega), Nat.mod_eq_of_lt (by omega)]
      simp
    have hstep : crc32Bit^[8] (s.toNat ^^^ b.toNat) = (Crc.crc32Register.step s b).toNat := by
      rw [hlane, iterate_toNat crc32Bit_toNat]
      rfl
    rw [List.foldl_cons, hstep, ih, ByteRegister.feed_cons]

/-- **The bitwise CRC-32 is the table-driven one.** -/
theorem zlibCrc32_eq (data : List UInt8) : zlibCrc32 data = (Crc.crc32 data).toNat := by
  have hloop := zlibLoop_toNat data 0xFFFFFFFF#32
  rw [← UInt32.toNat_toBitVec, Crc.crc32_toBitVec, BitVec.toNat_xor]
  exact congrArg (· ^^^ 0xFFFFFFFF) hloop

theorem crc32_eq (data : List UInt8) : crc32 data = (Crc.crc32 data).toNat := by
  rw [crc32, zlibCrc32_eq]
  calc (Crc.crc32 data).toNat &&& 0xFFFFFFFF = (Crc.crc32 data).toNat % 2 ^ 32 :=
        Nat.and_two_pow_sub_one_eq_mod _ 32
    _ = (Crc.crc32 data).toNat := Nat.mod_eq_of_lt (Crc.crc32 data).toNat_lt

/-! ## The parsers agree -/

/-- Both results reject, the Python one with the text of the C++ error, or both
accept with related values. -/
def Agree {α β : Type} (same : α → β → Prop) : Except ParseError α → Except Exn β → Prop
  | .error e, .error x => x = .valueError e.toString
  | .ok a, .ok b => same a b
  | _, _ => False

/-- One pair of tests: equivalent conditions, the same text. -/
theorem Agree.ite {α β : Type} {same : α → β → Prop} {c c' : Prop} [Decidable c] [Decidable c']
    {e : ParseError} {x : Except ParseError α} {y : Except Exn β} (hcond : c ↔ c')
    (hrest : ¬c → Agree same x y) :
    Agree same (if c then .error e else x) (if c' then raise e.toString else y) := by
  by_cases hc : c
  · rw [if_pos hc, if_pos (hcond.mp hc)]
    exact rfl
  · rw [if_neg hc, if_neg (hcond.not.mp hc)]
    exact hrest hc

/-- Equal `seq_num`, `cmd_id`, `cmd_type`, `sender_type`, `resv` and data. -/
structure SameCommandFrame (v : CommandFrameView) (f : CommandFrame) : Prop where
  seqNum : f.seqNum = v.header.seqNum.toNat
  cmdId : f.cmdId = v.header.cmdId.toNat
  cmdType : f.cmdType = v.header.cmdType.raw.toNat
  senderType : f.senderType = v.header.senderType.raw.toNat
  resv : f.resv = v.header.resv
  data : f.data = v.data

/-- A word as a number is the value of its bytes. -/
theorem toNat_readLe {α : Type} [LeWord α] (buf : List UInt8) (off : ℕ) :
    LeWord.toNat (readLe α buf off) = leValue (slice buf off (LeWord.size α)) := by
  apply LeWord.toNat_ofNat
  have hlen : (slice buf off (LeWord.size α)).length ≤ LeWord.size α := List.length_take_le ..
  exact (leValue_lt _).trans_le (Nat.pow_le_pow_right (by norm_num) hlen)

section Decode

variable (buf : List UInt8) (off : ℕ)

@[simp] theorem decode_B : Code.decode .B (slice buf off 1) = .int (readLe UInt8 buf off).toNat :=
  congrArg Value.int (toNat_readLe (α := UInt8) buf off).symm

@[simp] theorem decode_H : Code.decode .H (slice buf off 2) = .int (readLe UInt16 buf off).toNat :=
  congrArg Value.int (toNat_readLe (α := UInt16) buf off).symm

@[simp] theorem decode_I : Code.decode .I (slice buf off 4) = .int (readLe UInt32 buf off).toNat :=
  congrArg Value.int (toNat_readLe (α := UInt32) buf off).symm

@[simp] theorem decode_Q : Code.decode .Q (slice buf off 8) = .int (readLe UInt64 buf off).toNat :=
  congrArg Value.int (toNat_readLe (α := UInt64) buf off).symm

@[simp] theorem decode_s (n : ℕ) (bs : List UInt8) : Code.decode (.s n) bs = .bytes bs := rfl

end Decode

theorem unpackFrom_eq {fmt : List Code} {buf : List UInt8} {off : ℕ}
    (h : calcsize fmt ≤ buf.length - off) : unpackFrom fmt buf off = .ok (unpack fmt buf off) :=
  if_neg h.not_gt

theorem sliced_eq (buf : List UInt8) (start stop : ℕ) :
    sliced buf start stop = slice buf start (stop - start) := by
  rw [sliced, slice, List.drop_take]

theorem payloadCrc32_eq (data : List UInt8) :
    (if data = [] then 0 else crc32 data) = (payloadCrc32 data).toNat := by
  rw [payloadCrc32]
  split_ifs
  · rfl
  · exact crc32_eq data

/-- **Command frames.** -/
theorem parseCommandFrame_agree (frame : List UInt8) :
    Agree SameCommandFrame (parseCommandFrame frame) (CommandFrame.parse frame) := by
  have hpayload : sliced frame CMD_HEADER_SIZE (readLe UInt16 frame 2).toNat =
      slice frame kCommandHeaderSize ((readLe UInt16 frame 2).toNat - kCommandHeaderSize) :=
    sliced_eq frame CMD_HEADER_SIZE _
  refine Agree.ite Iff.rfl fun hlong => ?_
  rw [unpackFrom_eq (Nat.not_lt.mp hlong)]
  simp only [unpack, Code.size, Nat.zero_add, Nat.reduceAdd, decode_B, decode_H, decode_I,
    decode_s, hpayload]
  refine Agree.ite (UInt8.toNat_inj (b := kCommandSof)).not.symm fun _ => ?_
  refine Agree.ite (UInt8.toNat_inj (b := kProtocolVersion)).not.symm fun _ => ?_
  refine Agree.ite Iff.rfl fun _ => ?_
  refine Agree.ite ?_ fun _ => ?_
  · rw [crc16CcittFalse_eq, sliced, List.drop_zero]
    exact UInt16.toNat_inj.not.symm
  refine Agree.ite ?_ fun _ => ?_
  · rw [payloadCrc32_eq]
    exact UInt32.toNat_inj.not.symm
  exact ⟨rfl, rfl, rfl, rfl, rfl, rfl⟩

theorem SAMPLE_SIZE_of_known {b : UInt8} (h : b ≤ 3) :
    SAMPLE_SIZE b.toNat = some (sampleSize (.ofRaw b)) ∧ (DataType.ofRaw b).raw = b := by
  have hle : b.toNat ≤ 3 := h
  obtain rfl | rfl | rfl | rfl : b = 0 ∨ b = 1 ∨ b = 2 ∨ b = 3 := by
    simp only [← UInt8.toNat_inj]
    have : (0 : UInt8).toNat = 0 ∧ (1 : UInt8).toNat = 1 ∧ (2 : UInt8).toNat = 2 ∧
      (3 : UInt8).toNat = 3 := by decide
    omega
  all_goals decide

theorem SAMPLE_SIZE_of_unknown {b : UInt8} (h : 3 < b) : SAMPLE_SIZE b.toNat = none := by
  have hlt : 3 < b.toNat := h
  rw [SAMPLE_SIZE]
  all_goals omega

/-- Equal header fields and data; `length` and `crc32` are not kept by the Python
packet. -/
structure SameDataPacket (v : DataPacketView) (p : DataPacket) : Prop where
  version : p.version = v.header.version.toNat
  timeInterval : p.timeInterval = v.header.timeInterval.toNat
  dotNum : p.dotNum = v.header.dotNum.toNat
  udpCnt : p.udpCnt = v.header.udpCnt.toNat
  frameCnt : p.frameCnt = v.header.frameCnt.toNat
  dataType : p.dataType = v.header.dataType.raw.toNat
  timeType : p.timeType = v.header.timeType.raw.toNat
  reserved : p.reserved = v.header.reserved
  timestampNs : p.timestampNs = v.header.timestampNs.toNat
  data : p.data = v.data

/-- **Data packets.** -/
theorem parseDataPacket_agree (pkt : List UInt8) (verifyCrc : Bool) :
    Agree SameDataPacket (parseDataPacket pkt verifyCrc) (DataPacket.parse pkt verifyCrc) := by
  have hpayload : sliced pkt DATA_HEADER_SIZE (readLe UInt16 pkt 1).toNat =
      slice pkt kDataPacketHeaderSize ((readLe UInt16 pkt 1).toNat - kDataPacketHeaderSize) :=
    sliced_eq pkt DATA_HEADER_SIZE _
  refine Agree.ite Iff.rfl fun hlong => ?_
  rw [unpackFrom_eq (Nat.not_lt.mp hlong)]
  simp only [unpack, Code.size, Nat.zero_add, Nat.reduceAdd, decode_B, decode_H, decode_I,
    decode_Q, decode_s, hpayload]
  refine Agree.ite (UInt8.toNat_inj (b := kProtocolVersion)).not.symm fun _ => ?_
  refine Agree.ite Iff.rfl fun _ => ?_
  -- The range check of the one is the dictionary lookup of the other.
  by_cases htype : readLe UInt8 pkt 10 > 3
  · rw [if_pos htype, SAMPLE_SIZE_of_unknown htype]
    rfl
  · obtain ⟨hsize, hraw⟩ := SAMPLE_SIZE_of_known (UInt8.not_lt.mp htype)
    rw [if_neg htype, hsize]
    refine Agree.ite Iff.rfl fun _ => ?_
    refine Agree.ite ?_ fun _ => ?_
    · rw [crc32_eq, sliced_eq]
      refine and_congr_right fun _ => and_congr ?_ ?_
      · exact (UInt32.toNat_inj (b := 0)).not.symm
      · have hcovered : ∀ n : ℕ, 36 + n - 28 = 8 + n := by omega
        rw [hcovered]
        exact UInt32.toNat_inj.not.symm
    · exact ⟨rfl, rfl, rfl, rfl, rfl, congrArg UInt8.toNat hraw.symm, rfl, rfl, rfl, rfl⟩

/-- The same keys and values, in order. -/
def SameKvList (kvs : List KeyValue) (out : List (ℕ × List UInt8)) : Prop :=
  out = kvs.map fun kv => (kv.key.toNat, kv.value)

theorem parseKvLoop_agree (buf : List UInt8) (n off : ℕ) (kvs : List KeyValue)
    (out : List (ℕ × List UInt8)) (hsame : SameKvList kvs out) :
    Agree SameKvList (parseKeyValueLoop buf n off kvs) (parseKvLoop buf n out off) := by
  induction n generalizing off kvs out with
  | zero => exact Agree.ite Iff.rfl fun _ => hsame
  | succ n ih =>
    refine Agree.ite Iff.rfl fun hlong => ?_
    rw [unpackFrom_eq (Nat.not_lt.mp hlong)]
    simp only [unpack, Code.size, decode_H]
    refine Agree.ite Iff.rfl fun _ => ih _ _ _ ?_
    rw [SameKvList, hsame, sliced_eq, Nat.add_sub_cancel_left, List.map_append]
    rfl

/-- **Key-value lists**, for a count the C++ vector can hold. -/
theorem parseKvList_agree (buf : List UInt8) (keyNum : ℕ) (h : keyNum ≤ kKeyValueVectorMaxSize) :
    ∃ r, parseKeyValueList buf keyNum = some r ∧ Agree SameKvList r (parseKvList buf keyNum) :=
  ⟨_, parseKeyValueList_eq h, parseKvLoop_agree buf keyNum 0 [] [] rfl⟩

/-- **Sample times**, up to the width of the C++ result. -/
theorem sampleTimestampNs_agree {v : DataPacketView} {p : DataPacket} (same : SameDataPacket v p)
    {i : ℕ} (hi : i < v.header.dotNum.toNat) :
    p.sampleTimestampNs i % 2 ^ 64 = (sampleTimestampNs v.header i).toNat := by
  have hdot := v.header.dotNum.toNat_lt
  have hinterval := v.header.timeInterval.toNat_lt
  have hcond : (v.header.dotNum ≤ 1 ∨ i = 0) ↔ (v.header.dotNum.toNat ≤ 1 ∨ i = 0) := Iff.rfl
  rw [DataPacket.sampleTimestampNs, sampleTimestampNs, same.dotNum, same.timestampNs,
    same.timeInterval]
  by_cases hzero : v.header.dotNum.toNat ≤ 1 ∨ i = 0
  · rw [if_pos hzero, if_pos (hcond.mpr hzero), Nat.mod_eq_of_lt v.header.timestampNs.toNat_lt]
  · have hspan : (v.header.timeInterval.toUInt64 * 100).toNat =
        v.header.timeInterval.toNat * 100 := by
      rw [UInt64.toNat_mul, UInt16.toNat_toUInt64]
      exact Nat.mod_eq_of_lt (by simp; omega)
    have hindex : (UInt64.ofNat i).toNat = i :=
      UInt64.toNat_ofNat_of_lt (lt_trans (by omega : i < 2 ^ 16) (by decide))
    have hproduct : v.header.timeInterval.toNat * 100 * i < 2 ^ 64 :=
      calc v.header.timeInterval.toNat * 100 * i ≤ 2 ^ 16 * 100 * 2 ^ 16 := by gcongr; omega
        _ < 2 ^ 64 := by norm_num
    have hlast : (v.header.dotNum.toUInt64 - 1).toNat = v.header.dotNum.toNat - 1 := by
      rw [UInt64.toNat_sub_of_le _ _ (by rw [UInt64.le_iff_toNat_le]; simp; omega)]
      simp
    rw [if_neg hzero, if_neg (hcond.not.mpr hzero), UInt64.toNat_add, UInt64.toNat_div,
      UInt64.toNat_mul, hspan, hindex, hlast, Nat.mod_eq_of_lt hproduct]

/-- **The C++ parsers and the Python reference parsers agree** on every input, for
every key count up to the `max_size()` of the C++ vector. -/
theorem parsers_agree :
    (∀ frame, Agree SameCommandFrame (parseCommandFrame frame) (CommandFrame.parse frame)) ∧
    (∀ pkt verifyCrc,
      Agree SameDataPacket (parseDataPacket pkt verifyCrc) (DataPacket.parse pkt verifyCrc)) ∧
    (∀ buf keyNum, keyNum ≤ kKeyValueVectorMaxSize →
      ∃ r, parseKeyValueList buf keyNum = some r ∧ Agree SameKvList r (parseKvList buf keyNum)) ∧
    (∀ pkt verifyCrc v p, parseDataPacket pkt verifyCrc = .ok v →
      DataPacket.parse pkt verifyCrc = .ok p → ∀ i < v.header.dotNum.toNat,
        p.sampleTimestampNs i % 2 ^ 64 = (sampleTimestampNs v.header i).toNat) := by
  refine ⟨parseCommandFrame_agree, parseDataPacket_agree, parseKvList_agree, ?_⟩
  intro pkt verifyCrc v p hv hp i hi
  have same := parseDataPacket_agree pkt verifyCrc
  rw [hv, hp] at same
  exact sampleTimestampNs_agree same hi

/-- A list of one entry, and the second sample of a packet of two. -/
theorem parsers_agree_two_samples :
    let pkt : List UInt8 := [0, 52, 0, 10, 0, 2, 0, 7, 0, 1, 2, 0, 0, 0, 0, 0, 0, 0, 0, 0, 0, 0, 0,
      0, 0, 0, 0, 0, 255, 255, 255, 255, 255, 255, 255, 255, 1, 0, 2, 0, 3, 0, 40, 0, 4, 0, 5, 0,
      6, 0, 41, 0]
    (∃ r, parseKeyValueList [6, 128, 1, 0, 2] 1 = some r ∧
      Agree SameKvList r (parseKvList [6, 128, 1, 0, 2] 1)) ∧
    ∃ v p, parseDataPacket pkt true = .ok v ∧ DataPacket.parse pkt true = .ok p ∧
      p.sampleTimestampNs 1 % 2 ^ 64 = (sampleTimestampNs v.header 1).toNat := by
  intro pkt
  have hcpp : parseDataPacket pkt true = .ok ⟨readDataPacketHeader pkt, pkt.drop 36⟩ := by
    decide +kernel
  have hpy : DataPacket.parse pkt true = .ok ⟨10, 2, 7, 1, 2, 0, 2 ^ 64 - 1, pkt.drop 36,
      List.replicate 12 0, 0⟩ := by
    decide +kernel
  refine ⟨parsers_agree.2.2.1 _ 1 (by decide), _, _, hcpp, hpy, ?_⟩
  exact parsers_agree.2.2.2 pkt true _ _ hcpp hpy 1 (by decide +kernel)

/-- Above `max_size()` the C++ parser terminates the process where the Python one
reports a truncated list. -/
theorem parseKeyValueList_terminates :
    parseKeyValueList [] (2 ^ 64 - 1) = none ∧
      parseKvList [] (2 ^ 64 - 1) = .error (.valueError "truncated") := by
  decide

end Python

end LivoxMid360
