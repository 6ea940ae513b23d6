import LivoxMid360.PythonReference
import LivoxMid360.Keys
import LivoxMid360.Lib.PrefixMask
import Mathlib.Data.Int.Bitwise

/-!
# The checks of a network configuration and of a window

`lidar_ip_config_valid` and `fov_in_range` decide whether a value is sent to the LiDAR at
all, and the simulator has both once more, on the bytes of the value and in Python's
integers.  The four are modelled as they are written: the C++ ones on words that wrap, the
Python ones on integers that do not, where `~mask` is negative.

`IsHostConfig` says what the first is meant to decide, by the length of the prefix and the
bits of the addresses (`PrefixMask`).

* `lidarIpConfigValid_iff`: the check decides `IsHostConfig`.
* `Python.lidarIpcfgValid_eq` and `Python.fovInRange_eq`: the simulator answers the same
  on the bytes the C++ decoders read.
* `valueChecks_agree` is the whole comparison.
-/

namespace LivoxMid360

open LittleEndian PrefixMask

/-! ## The checks in C++ -/

/-- The lambda `u32` of `lidar_ip_config_valid`. -/
def Ipv4.u32 (a : Ipv4) : UInt32 :=
  (a.a.toUInt32 <<< 24) ||| (a.b.toUInt32 <<< 16) ||| (a.c.toUInt32 <<< 8) ||| a.d.toUInt32

def lidarIpConfigValid (c : LidarIpConfig) : Bool :=
  let ip := c.ip.u32
  let mask := c.netmask.u32
  let gw := c.gateway.u32
  let host := ~~~mask
  let net := ip &&& mask
  if mask = 0 ∨ host = 0 ∨ host &&& (host + 1) ≠ 0 ∨ mask = 0xFFFFFFFE then false
  else if ip = 0 ∨ ip = 0xFFFFFFFF ∨ ip = net ∨ ip = net ||| host then false
  else if gw ≠ 0 ∧ (gw &&& mask ≠ net ∨ gw = ip ∨ gw = net ∨ gw = net ||| host) then false
  else true

/-! ## The checks in Python -/

namespace Python

/-- `int.from_bytes(bs, 'big')`. -/
def fromBytesBig (bs : List UInt8) : ℤ :=
  leValue bs.reverse

def lidarIpcfgValid (value : List UInt8) : Bool :=
  let ip := fromBytesBig (sliced value 0 4)
  let mask := fromBytesBig (sliced value 4 8)
  let gw := fromBytesBig (sliced value 8 12)
  let host := Int.land (~~~mask) 0xFFFFFFFF
  let net := Int.land ip mask
  if mask = 0 ∨ host = 0 ∨ Int.land host (host + 1) ≠ 0 ∨ mask = 0xFFFFFFFE then false
  else if ip = 0 ∨ ip = 0xFFFFFFFF ∨ ip = net ∨ ip = Int.lor net host then false
  else gw = 0 ∨ (Int.land gw mask = net ∧ ¬(gw = ip ∨ gw = net ∨ gw = Int.lor net host))

/-- The format character `i` of `struct`: four bytes in two's complement. -/
def signedWord (bs : List UInt8) : ℤ :=
  if leValue bs < 0x80000000 then leValue bs else leValue bs - 0x100000000

/-- `struct.unpack('<iiiiI', value)` raises for every other length than 20; the fifth field
is not used. -/
def fovInRange (value : List UInt8) : Except Exn Bool :=
  if value.length ≠ 20 then .error .structError
  else
    let yaw0 := signedWord (slice value 0 4)
    let yaw1 := signedWord (slice value 4 4)
    let pitch0 := signedWord (slice value 8 4)
    let pitch1 := signedWord (slice value 12 4)
    .ok (0 ≤ yaw0 ∧ yaw0 ≤ yaw1 ∧ yaw1 ≤ 360 ∧ -10 ≤ pitch0 ∧ pitch0 ≤ pitch1 ∧ pitch1 ≤ 60)

end Python

/-! ## The rule -/

/-- The address can be one of a host in its subnet of `p` bits. -/
structure IsHostAddress (p : ℕ) (a : BitVec 32) : Prop where
  notNetwork : ¬IsNetwork p a
  notBroadcast : ¬IsBroadcast p a

/-- What `lidar_ip_config_valid` is to decide: the mask is a prefix of 1 to 30 bits, the
address is one of a host, and so is the gateway, in the same subnet, unless there is none. -/
structure IsHostConfig (p : ℕ) (ip mask gateway : BitVec 32) : Prop where
  one_le : 1 ≤ p
  le_thirty : p ≤ 30
  isPrefix : IsPrefix mask p
  notZero : ip ≠ 0
  notOnes : ip ≠ BitVec.allOnes 32
  isHost : IsHostAddress p ip
  isGateway : gateway = 0 ∨ (SameSubnet p gateway ip ∧ gateway ≠ ip ∧ IsHostAddress p gateway)

/-! ## The check decides the rule -/

theorem isPrefix_zero : IsPrefix (0 : BitVec 32) 0 := by
  intro i hi
  simp

theorem isPrefix_allOnes : IsPrefix (BitVec.allOnes 32) 32 := by
  intro i hi
  rw [BitVec.getMsbD_allOnes]

theorem isPrefix_thirtyOne : IsPrefix (0xFFFFFFFE : BitVec 32) 31 := by
  unfold IsPrefix
  decide

/-- The first test: a prefix, neither empty nor of 31 or 32 bits. -/
theorem maskTest_iff (mask : BitVec 32) :
    ¬(mask = 0 ∨ ~~~mask = 0 ∨ ~~~mask &&& (~~~mask + 1) ≠ 0 ∨ mask = 0xFFFFFFFE) ↔
      ∃ p, 1 ≤ p ∧ p ≤ 30 ∧ IsPrefix mask p := by
  have hnot : ~~~mask = 0 ↔ mask = BitVec.allOnes 32 := by
    rw [← BitVec.not_inj, BitVec.not_not]
    simp
  rw [hnot, ne_eq, ← exists_isPrefix_iff, not_or, not_or, not_or, not_not]
  constructor
  · rintro ⟨hzero, hones, ⟨p, hp, h⟩, hlong⟩
    rw [h.eq_iff hp (Nat.zero_le 32) isPrefix_zero] at hzero
    rw [h.eq_iff hp (Nat.le_refl 32) isPrefix_allOnes] at hones
    rw [h.eq_iff hp (by decide) isPrefix_thirtyOne] at hlong
    exact ⟨p, by omega, by omega, h⟩
  · rintro ⟨p, hone, hthirty, h⟩
    have hp : p ≤ 32 := by omega
    rw [h.eq_iff hp (Nat.zero_le 32) isPrefix_zero,
      h.eq_iff hp (Nat.le_refl 32) isPrefix_allOnes, h.eq_iff hp (by decide) isPrefix_thirtyOne]
    exact ⟨by omega, by omega, ⟨p, hp, h⟩, by omega⟩

variable {p : ℕ} {ip mask gw : BitVec 32}

/-- The second test. -/
theorem ipTest_iff (h : IsPrefix mask p) :
    ¬(ip = 0 ∨ ip = 0xFFFFFFFF ∨ ip = ip &&& mask ∨ ip = ip &&& mask ||| ~~~mask) ↔
      ip ≠ 0 ∧ ip ≠ BitVec.allOnes 32 ∧ IsHostAddress p ip := by
  have hones : (0xFFFFFFFF : BitVec 32) = BitVec.allOnes 32 := rfl
  rw [hones, eq_and_mask_iff h, eq_and_mask_or_not_iff h, not_or, not_or, not_or]
  constructor <;> rintro ⟨hzero, hfull, hnet, hbroad⟩ <;> exact ⟨hzero, hfull, hnet, hbroad⟩

/-- The third test, which compares the gateway with the subnet of the address. -/
theorem gatewayTest_iff (hp : p ≤ 32) (h : IsPrefix mask p) :
    ¬(gw ≠ 0 ∧ (gw &&& mask ≠ ip &&& mask ∨ gw = ip ∨ gw = ip &&& mask ∨
        gw = ip &&& mask ||| ~~~mask)) ↔
      gw = 0 ∨ (SameSubnet p gw ip ∧ gw ≠ ip ∧ IsHostAddress p gw) := by
  rw [not_and_or, not_not]
  refine or_congr Iff.rfl ?_
  rw [not_or, not_not, not_or, not_or, and_mask_eq_iff hp h]
  refine and_congr_right fun hsame => and_congr_right fun _ => ?_
  -- inside the subnet, its first and last address are the gateway's own
  rw [← (and_mask_eq_iff hp h).mpr hsame, eq_and_mask_iff h, eq_and_mask_or_not_iff h]
  exact ⟨fun ⟨hnet, hbroad⟩ => ⟨hnet, hbroad⟩, fun ⟨hnet, hbroad⟩ => ⟨hnet, hbroad⟩⟩

/-- The check on words: all three tests. -/
theorem lidarIpConfigValid_tests (c : LidarIpConfig) (hip : c.ip.u32.toBitVec = ip)
    (hmask : c.netmask.u32.toBitVec = mask) (hgw : c.gateway.u32.toBitVec = gw) :
    lidarIpConfigValid c = true ↔
      ¬(mask = 0 ∨ ~~~mask = 0 ∨ ~~~mask &&& (~~~mask + 1) ≠ 0 ∨ mask = 0xFFFFFFFE) ∧
      ¬(ip = 0 ∨ ip = 0xFFFFFFFF ∨ ip = ip &&& mask ∨ ip = ip &&& mask ||| ~~~mask) ∧
      ¬(gw ≠ 0 ∧ (gw &&& mask ≠ ip &&& mask ∨ gw = ip ∨ gw = ip &&& mask ∨
        gw = ip &&& mask ||| ~~~mask)) := by
  subst hip hmask hgw
  unfold lidarIpConfigValid
  simp only [ne_eq, ← UInt32.toBitVec_inj, UInt32.toBitVec_not, UInt32.toBitVec_and,
    UInt32.toBitVec_or, UInt32.toBitVec_add, UInt32.toBitVec_ofNat, Bool.if_false_left,
    Bool.and_true, Bool.and_eq_true, Bool.not_eq_true', decide_eq_false_iff_not]
  rfl

/-- **`lidar_ip_config_valid` decides the rule.** -/
theorem lidarIpConfigValid_iff (c : LidarIpConfig) :
    lidarIpConfigValid c = true ↔
      ∃ p, IsHostConfig p c.ip.u32.toBitVec c.netmask.u32.toBitVec c.gateway.u32.toBitVec := by
  rw [lidarIpConfigValid_tests c rfl rfl rfl, maskTest_iff]
  constructor
  · rintro ⟨⟨p, hone, hthirty, h⟩, hip, hgw⟩
    obtain ⟨hzero, hones, hhost⟩ := (ipTest_iff h).mp hip
    exact ⟨p, hone, hthirty, h, hzero, hones, hhost, (gatewayTest_iff (by omega) h).mp hgw⟩
  · rintro ⟨p, hone, hthirty, h, hzero, hones, hhost, hgw⟩
    exact ⟨⟨p, hone, hthirty, h⟩, (ipTest_iff h).mpr ⟨hzero, hones, hhost⟩,
      (gatewayTest_iff (by omega) h).mpr hgw⟩

/-! ## Subnets of 24 bits -/

section Octets

variable {ip : Ipv4}

/-- The last eight bits of an address are its last octet. -/
theorem Ipv4.u32_getLsbD (ip : Ipv4) {i : ℕ} (h : i < 8) :
    ip.u32.toBitVec.getLsbD i = ip.d.toBitVec.getLsbD i := by
  have h16 : i < 16 := by omega
  have h24 : i < 24 := by omega
  have h32 : i < 32 := by omega
  simp [Ipv4.u32, h, h16, h24, h32]

/-- The other bits do not depend on it. -/
theorem Ipv4.u32_getMsbD {a b c : UInt8} (d d' : UInt8) {i : ℕ} (h : i < 24) :
    (Ipv4.u32 ⟨a, b, c, d⟩).toBitVec.getMsbD i = (Ipv4.u32 ⟨a, b, c, d'⟩).toBitVec.getMsbD i := by
  have hlow : 8 ≤ 31 - i := by omega
  simp [Ipv4.u32, BitVec.getMsbD_eq_getLsbD, BitVec.getLsbD_of_ge _ _ hlow]

/-- An address whose last octet is neither 0 nor 255 can be one of a host. -/
theorem isHostAddress_octet (hzero : ip.d ≠ 0) (hones : ip.d ≠ 255) :
    IsHostAddress 24 ip.u32.toBitVec := by
  have hbit : ∀ {value : Bool}, (∀ i < 32, 24 ≤ i → ip.u32.toBitVec.getMsbD i = value) →
      ∀ i < 8, ip.d.toBitVec.getLsbD i = value := by
    intro value h i hi
    have hmsb := h (31 - i) (by omega) (by omega)
    rw [BitVec.getMsbD_eq_getLsbD, show 32 - 1 - (31 - i) = i by omega] at hmsb
    simpa [ip.u32_getLsbD hi, show 31 - i < 32 by omega] using hmsb
  constructor
  · refine fun hnet => hzero (UInt8.eq_of_toBitVec_eq (BitVec.eq_of_getLsbD_eq fun i hi => ?_))
    simp [hbit hnet i hi]
  · refine fun hbroad => hones (UInt8.eq_of_toBitVec_eq (BitVec.eq_of_getLsbD_eq fun i hi => ?_))
    rw [hbit hbroad i hi]
    interval_cases i <;> rfl

theorem Ipv4.d_eq_of_u32 (ip' : Ipv4) (h : ip.u32.toBitVec = ip'.u32.toBitVec) : ip.d = ip'.d := by
  refine UInt8.eq_of_toBitVec_eq (BitVec.eq_of_getLsbD_eq fun i hi => ?_)
  rw [← ip.u32_getLsbD hi, ← ip'.u32_getLsbD hi, h]

end Octets

/-! ## The simulator agrees -/

namespace Python

/-- The four bytes of an address as a big-endian number. -/
theorem fromBytesBig_bytes (ip : Ipv4) : fromBytesBig ip.bytes = (ip.u32.toNat : ℤ) := by
  obtain ⟨a, b, c, d⟩ := ip
  have ha := a.toNat_lt
  have hb := b.toNat_lt
  have hc := c.toNat_lt
  have hd := d.toNat_lt
  -- each byte fills the low bits that the shift of the bytes before it left free
  have hcd : 2 ^ 8 * c.toNat ||| d.toNat = 2 ^ 8 * c.toNat + d.toNat :=
    (Nat.two_pow_add_eq_or_of_lt (by omega) _).symm
  have hbcd : 2 ^ 16 * b.toNat ||| (2 ^ 8 * c.toNat + d.toNat) =
      2 ^ 16 * b.toNat + (2 ^ 8 * c.toNat + d.toNat) :=
    (Nat.two_pow_add_eq_or_of_lt (by omega) _).symm
  have habcd : 2 ^ 24 * a.toNat ||| (2 ^ 16 * b.toNat + (2 ^ 8 * c.toNat + d.toNat)) =
      2 ^ 24 * a.toNat + (2 ^ 16 * b.toNat + (2 ^ 8 * c.toNat + d.toNat)) :=
    (Nat.two_pow_add_eq_or_of_lt (by omega) _).symm
  have hword : (Ipv4.u32 ⟨a, b, c, d⟩).toNat =
      2 ^ 24 * a.toNat ||| (2 ^ 16 * b.toNat ||| (2 ^ 8 * c.toNat ||| d.toNat)) := by
    simp only [Ipv4.u32, UInt32.toNat_or, UInt32.toNat_shiftLeft, UInt8.toNat_toUInt32,
      UInt32.toNat_ofNat, Nat.shiftLeft_eq, Nat.or_assoc]
    norm_num only
    rw [Nat.mod_eq_of_lt (by omega), Nat.mod_eq_of_lt (by omega), Nat.mod_eq_of_lt (by omega)]
    simp only [Nat.mul_comm]
  rw [hword, hcd, hbcd, habcd]
  simp only [fromBytesBig, Ipv4.bytes, List.reverse_cons, List.reverse_nil, List.nil_append,
    List.cons_append, leValue_cons, leValue_nil]
  omega

variable {v : List UInt8}

theorem drop_eq_readLe_cons {off : ℕ} (h : off < v.length) :
    v.drop off = readLe UInt8 v off :: v.drop (off + 1) := by
  rw [drop_eq_encodeLe_append (α := UInt8) h]
  exact congrArg (· :: v.drop (off + 1)) UInt8.ofNat_toNat

theorem readLe_eq_getElem {off : ℕ} (h : off < v.length) : readLe UInt8 v off = v[off] :=
  (List.cons.inj ((drop_eq_readLe_cons h).symm.trans (List.drop_eq_getElem_cons h))).1

theorem sliced_decodeIpv4 (off : ℕ) (h : off + 4 ≤ v.length) :
    sliced v off (off + 4) = (decodeIpv4 v off).bytes := by
  rw [sliced_eq, Nat.add_sub_cancel_left, slice, drop_eq_readLe_cons (by omega),
    drop_eq_readLe_cons (by omega), drop_eq_readLe_cons (by omega),
    drop_eq_readLe_cons (by omega)]
  rfl

theorem land_toNat (a b : UInt32) : Int.land a.toNat b.toNat = ((a &&& b).toNat : ℤ) := by
  rw [UInt32.toNat_and]
  rfl

theorem lor_toNat (a b : UInt32) : Int.lor a.toNat b.toNat = ((a ||| b).toNat : ℤ) := by
  rw [UInt32.toNat_or]
  rfl

/-- `~mask & 0xFFFFFFFF` is the complement of the word. -/
theorem land_not_toNat (a : UInt32) :
    Int.land (~~~(a.toNat : ℤ)) 0xFFFFFFFF = ((~~~a).toNat : ℤ) := by
  show ((Nat.ldiff 0xFFFFFFFF a.toNat : ℕ) : ℤ) = ((~~~a).toNat : ℤ)
  congr 1
  apply Nat.eq_of_testBit_eq
  intro i
  rw [Nat.testBit_ldiff, show (0xFFFFFFFF : ℕ) = 2 ^ 32 - 1 from rfl,
    Nat.testBit_two_pow_sub_one, ← UInt32.toNat_toBitVec, ← UInt32.toNat_toBitVec,
    UInt32.toBitVec_not, BitVec.testBit_toNat, BitVec.testBit_toNat, BitVec.getLsbD_not]

theorem toNat_eq_iff {a b : UInt32} : (a.toNat : ℤ) = (b.toNat : ℤ) ↔ a = b := by
  rw [Int.natCast_inj, UInt32.toNat_inj]

theorem toNat_eq_literal {a : UInt32} (n : ℕ) (h : n < 2 ^ 32) :
    (a.toNat : ℤ) = (n : ℤ) ↔ a = UInt32.ofNat n := by
  rw [← toNat_eq_iff, UInt32.toNat_ofNat_of_lt' h]

/-- The sum of the test does not wrap, except at the mask zero. -/
theorem land_succ_eq_zero_iff {mask : UInt32} (h : mask ≠ 0) :
    Int.land (~~~mask).toNat ((~~~mask).toNat + 1) = 0 ↔ ~~~mask &&& (~~~mask + 1) = 0 := by
  have hsucc : (~~~mask + 1).toNat = (~~~mask).toNat + 1 := by
    have hpos : mask.toNat ≠ 0 := fun hzero => h (UInt32.toNat_inj.mp hzero)
    have hsmall := mask.toNat_lt
    have hnot : (~~~mask).toNat = 2 ^ 32 - 1 - mask.toNat := UInt32.toNat_not mask
    have hone : (1 : UInt32).toNat = 1 := rfl
    rw [UInt32.toNat_add, hone, hnot]
    omega
  have hcast : ((~~~mask).toNat : ℤ) + 1 = ((~~~mask + 1).toNat : ℤ) := by
    rw [hsucc]
    rfl
  rw [hcast, land_toNat]
  exact toNat_eq_literal 0 (by decide)

/-- **The simulator's check of the IP configuration** is the C++ one. -/
theorem lidarIpcfgValid_eq {c : LidarIpConfig} (h : decodeLidarIpConfig v = .ok c) :
    lidarIpcfgValid v = lidarIpConfigValid c := by
  have hlen : v.length = 12 := by
    by_contra hne
    rw [decodeLidarIpConfig, if_pos hne] at h
    exact absurd h (by simp)
  rw [decodeLidarIpConfig, if_neg (not_not.mpr hlen)] at h
  cases h
  unfold lidarIpcfgValid lidarIpConfigValid
  rw [sliced_decodeIpv4 0 (by omega), sliced_decodeIpv4 4 (by omega),
    sliced_decodeIpv4 8 (by omega)]
  simp only [fromBytesBig_bytes, land_not_toNat, land_toNat, lor_toNat]
  generalize (decodeIpv4 v 0).u32 = ip
  generalize (decodeIpv4 v 4).u32 = mask
  generalize (decodeIpv4 v 8).u32 = gw
  have hzero (a : UInt32) : (a.toNat : ℤ) = 0 ↔ a = 0 := toNat_eq_literal 0 (by decide)
  have hones (a : UInt32) : (a.toNat : ℤ) = 0xFFFFFFFF ↔ a = 0xFFFFFFFF :=
    toNat_eq_literal 0xFFFFFFFF (by decide)
  have hlong (a : UInt32) : (a.toNat : ℤ) = 0xFFFFFFFE ↔ a = 0xFFFFFFFE :=
    toNat_eq_literal 0xFFFFFFFE (by decide)
  simp only [hzero, hones, hlong, toNat_eq_iff]
  by_cases hmask : mask = 0
  · rw [if_pos (Or.inl hmask), if_pos (Or.inl hmask)]
  · simp only [ne_eq, land_succ_eq_zero_iff hmask]
    refine ite_congr rfl (fun _ => rfl) fun _ => ite_congr rfl (fun _ => rfl) fun _ => ?_
    rw [Bool.eq_iff_iff, decide_eq_true_eq, Bool.if_false_left, Bool.and_true,
      Bool.not_eq_true', decide_eq_false_iff_not, not_and_or, not_not]
    refine or_congr Iff.rfl ?_
    rw [not_or (p := ¬gw &&& mask = ip &&& mask), not_not]

/-- The format character `i` reads what `read_le<std::int32_t>` reads. -/
theorem signedWord_slice (v : List UInt8) (off : ℕ) :
    signedWord (slice v off 4) = (readLe UInt32 v off).toInt32.toInt := by
  have hread : (readLe UInt32 v off).toNat = leValue (slice v off 4) :=
    toNat_readLe (α := UInt32) v off
  have hint : (readLe UInt32 v off).toInt32.toInt =
      if 2 * (readLe UInt32 v off).toNat < 2 ^ 32 then ((readLe UInt32 v off).toNat : ℤ)
      else ((readLe UInt32 v off).toNat : ℤ) - (2 ^ 32 : ℕ) :=
    BitVec.toInt_eq_toNat_cond _
  rw [hint, hread, signedWord]
  refine ite_congr ?_ (fun _ => rfl) fun _ => rfl
  exact propext ⟨fun hlt => by omega, fun hlt => by omega⟩

/-- **The simulator's check of a window** is the C++ one. -/
theorem fovInRange_eq {f : FovConfig} (h : decodeFovConfig v = .ok f) :
    fovInRange v = .ok (LivoxMid360.fovInRange f) := by
  have hlen : v.length = 20 := by
    by_contra hne
    rw [decodeFovConfig, if_pos hne] at h
    exact absurd h (by simp)
  rw [decodeFovConfig, if_neg (not_not.mpr hlen)] at h
  cases h
  rw [fovInRange, if_neg (not_not.mpr hlen)]
  dsimp only
  have hbounds : (0 : Int32).toInt = 0 ∧ (360 : Int32).toInt = 360 ∧
      (-10 : Int32).toInt = -10 ∧ (60 : Int32).toInt = 60 := by decide
  obtain ⟨hzero, hfull, hlow, hhigh⟩ := hbounds
  simp only [signedWord_slice]
  rw [Except.ok.injEq, Bool.eq_iff_iff]
  unfold LivoxMid360.fovInRange
  simp only [decide_eq_true_eq, Bool.and_eq_true, ge_iff_le, Int32.le_iff_toInt_le, hzero, hfull,
    hlow, hhigh]
  constructor
  · rintro ⟨hy0, hy01, hy1, hp0, hp01, hp1⟩
    exact ⟨⟨⟨⟨⟨⟨hy0, by omega⟩, by omega, hy1⟩, hp0, by omega⟩, by omega, hp1⟩, hy01⟩, hp01⟩
  · rintro ⟨⟨⟨⟨⟨⟨hy0, -⟩, -, hy1⟩, hp0, -⟩, -, hp1⟩, hy01⟩, hp01⟩
    exact ⟨hy0, hy01, hy1, hp0, hp01, hp1⟩

end Python

/-- **The checks are the rule, and the two implementations agree**, on every value of the
length of its key. -/
theorem valueChecks_agree (ipcfg fov : List UInt8) (hipcfg : ipcfg.length = 12)
    (hfov : fov.length = 20) :
    (∃ c, decodeLidarIpConfig ipcfg = .ok c ∧
      (lidarIpConfigValid c = true ↔ ∃ p, IsHostConfig p c.ip.u32.toBitVec c.netmask.u32.toBitVec
          c.gateway.u32.toBitVec) ∧
      Python.lidarIpcfgValid ipcfg = lidarIpConfigValid c) ∧
    ∃ f, decodeFovConfig fov = .ok f ∧ Python.fovInRange fov = .ok (fovInRange f) := by
  constructor
  · refine ⟨_, if_neg (not_not.mpr hipcfg), lidarIpConfigValid_iff _, ?_⟩
    exact Python.lidarIpcfgValid_eq (if_neg (not_not.mpr hipcfg))
  · exact ⟨_, if_neg (not_not.mpr hfov), Python.fovInRange_eq (if_neg (not_not.mpr hfov))⟩

/-- The values of the factory: an address with its gateway in a subnet of 24 bits, and a
window of no yaw. -/
theorem valueChecks_agree_factory :
    (∃ c, decodeLidarIpConfig [192, 168, 1, 100, 255, 255, 255, 0, 192, 168, 1, 1] = .ok c ∧
      Python.lidarIpcfgValid [192, 168, 1, 100, 255, 255, 255, 0, 192, 168, 1, 1] = true ∧
      ∃ p, IsHostConfig p c.ip.u32.toBitVec c.netmask.u32.toBitVec c.gateway.u32.toBitVec) ∧
    ∃ f, decodeFovConfig [0, 0, 0, 0, 0, 0, 0, 0, 249, 255, 255, 255, 52, 0, 0, 0, 0, 0, 0, 0] =
        .ok f ∧ fovInRange f = true := by
  obtain ⟨⟨c, hdecode, hrule, hsame⟩, f, hfov, hrange⟩ := valueChecks_agree
    [192, 168, 1, 100, 255, 255, 255, 0, 192, 168, 1, 1]
    [0, 0, 0, 0, 0, 0, 0, 0, 249, 255, 255, 255, 52, 0, 0, 0, 0, 0, 0, 0] rfl rfl
  have hvalid : lidarIpConfigValid c = true := by
    obtain rfl : (⟨⟨192, 168, 1, 100⟩, ⟨255, 255, 255, 0⟩, ⟨192, 168, 1, 1⟩⟩ : LidarIpConfig) = c :=
      Except.ok.inj hdecode
    decide
  refine ⟨⟨c, hdecode, hsame.trans hvalid, hrule.mp hvalid⟩, f, hfov, ?_⟩
  exact (Except.ok.inj hrange).symm.trans (by decide)

end LivoxMid360
