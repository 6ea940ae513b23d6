import LivoxMid360.Protocol

/-!
# Keys and their values

Every parameter of the LiDAR is a key with a byte string as its value
(`keys.hpp`, `keys.cpp`).  This module holds the keys that the host setup, the
settings and the status push use, the typed values, and the codecs between the two.

* An enumeration of one byte is a `WireEnum`: the cast to the byte, the cast from
  it, and the law that the second undoes the first on every byte up to the last
  enumerator.  `decodeEnumU8` and `encodeEnumU8` are one codec for all of them.
* `encode_of_decode…` are the laws this module is for: a value that a decoder
  accepts is encoded to exactly the bytes it was decoded from.  They are what
  makes a configuration that was received, stored in typed form and sent again
  the same configuration.

The integer types are those of the source.  A signed integer is read as the
unsigned one of its width and cast.
-/

namespace LivoxMid360

open LittleEndian

/-! ## Keys -/

/-- The keys the host setup writes, the settings are read from and the status push
carries. -/
inductive Key where
  | kPclDataType
  | kPatternMode
  | kLidarIpCfg
  | kStateInfoHostIpCfg
  | kPointCloudHostIpCfg
  | kImuHostIpCfg
  | kInstallAttitude
  | kFovCfg0
  | kFovCfg1
  | kFovCfgEn
  | kDetectMode
  | kFuncIoCfg
  | kWorkTgtMode
  | kImuDataEn
  | kTimeFilter
  | kImuSensorCfg
  | kCurWorkState
  | kCoreTemp
  | kPowerupCnt
  | kLocalTimeNow
  | kLastSyncTime
  | kTimeOffset
  | kTimeSyncType
  | kLidarDiagStatus
  | kFwType
  | kHmsCode
deriving DecidableEq, Repr

namespace Key

/-- The wire value. -/
def raw : Key → UInt16
  | kPclDataType => 0x0000
  | kPatternMode => 0x0001
  | kLidarIpCfg => 0x0004
  | kStateInfoHostIpCfg => 0x0005
  | kPointCloudHostIpCfg => 0x0006
  | kImuHostIpCfg => 0x0007
  | kInstallAttitude => 0x0012
  | kFovCfg0 => 0x0015
  | kFovCfg1 => 0x0016
  | kFovCfgEn => 0x0017
  | kDetectMode => 0x0018
  | kFuncIoCfg => 0x0019
  | kWorkTgtMode => 0x001A
  | kImuDataEn => 0x001C
  | kTimeFilter => 0x0026
  | kImuSensorCfg => 0x002B
  | kCurWorkState => 0x8006
  | kCoreTemp => 0x8007
  | kPowerupCnt => 0x8008
  | kLocalTimeNow => 0x8009
  | kLastSyncTime => 0x800A
  | kTimeOffset => 0x800B
  | kTimeSyncType => 0x800C
  | kLidarDiagStatus => 0x800E
  | kFwType => 0x8010
  | kHmsCode => 0x8011

/-- No two keys share a wire value. -/
theorem raw_injective : Function.Injective raw := by
  intro k l h
  cases k <;> cases l <;> first | rfl | exact absurd h (by decide)

@[simp] theorem raw_inj {k l : Key} : k.raw = l.raw ↔ k = l :=
  raw_injective.eq_iff

end Key

/-- Why a key value did not decode. -/
inductive KeyError where
  | kWrongLength
  | kOutOfRange
deriving DecidableEq, Repr

/-- The value of the first entry with this raw key. -/
def findRaw (kvs : List KeyValue) (key : UInt16) : Option (List UInt8) :=
  (kvs.find? fun kv => kv.key = key).map KeyValue.value

/-- `find_key`. -/
def findKey (kvs : List KeyValue) (key : Key) : Option (List UInt8) :=
  findRaw kvs key.raw

/-! ## Enumerations of one byte -/

/-- A `u8` enumeration whose enumerators are `0 .. last`. -/
class WireEnum (E : Type) where
  raw : E → UInt8
  ofRaw : UInt8 → E
  last : UInt8
  raw_ofRaw : ∀ u, u ≤ last → raw (ofRaw u) = u

/-- Scan pattern (key 0x0001). -/
inductive ScanPattern where
  | kNonRepetitive
  | kRepetitive
  | kLowRateRepetitive
deriving DecidableEq, Repr

/-- Detection sensitivity (key 0x0018). -/
inductive DetectMode where
  | kNormal
  | kSensitive
deriving DecidableEq, Repr

/-- Function of pin IN0 (key 0x0019). -/
inductive FuncIn0 where
  | kPps
deriving DecidableEq, Repr

/-- Function of pin IN1 (key 0x0019). -/
inductive FuncIn1 where
  | kGps
deriving DecidableEq, Repr

/-- Function of pins OUT0 and OUT1 (key 0x0019). -/
inductive FuncOut where
  | kNone
  | kFollowInput
  | kSafetyZone
deriving DecidableEq, Repr

/-- IMU output rate (key 0x002B, byte 0). -/
inductive ImuOutputRate where
  | k200Hz
  | k500Hz
  | k100Hz
  | k50Hz
deriving DecidableEq, Repr

/-- Accelerometer range (key 0x002B, byte 1). -/
inductive ImuAccelRange where
  | k4g
  | k8g
  | k16g
  | k32g
deriving DecidableEq, Repr

/-- Gyroscope range (key 0x002B, byte 2). -/
inductive ImuGyroRange where
  | k2000dps
  | k1000dps
  | k500dps
  | k250dps
  | k125dps
  | k62_5dps
  | k31_25dps
  | k15_625dps
deriving DecidableEq, Repr

/-- The time source the LiDAR is synchronised to (key 0x800C). -/
inductive TimeSyncType where
  | kNone
  | kPtp
  | kGps
deriving DecidableEq, Repr

/-- Which firmware image is running (key 0x8010). -/
inductive FwType where
  | kLoader
  | kApp
deriving DecidableEq, Repr

/-- Abnormality level of one subsystem (a nibble of key 0x800E). -/
inductive DiagLevel where
  | kNormal
  | kWarning
  | kError
  | kSafetyError
deriving DecidableEq, Repr

/-- A property of the bytes up to `n` is checked on each of them. -/
private theorem forall_byte_le (n : UInt8) {p : UInt8 → Prop}
    (h : ∀ k < n.toNat + 1, p (UInt8.ofNat k)) : ∀ u, u ≤ n → p u := by
  intro u hu
  have hlt : u.toNat < n.toNat + 1 := Nat.lt_succ_of_le (UInt8.le_iff_toNat_le.mp hu)
  exact UInt8.ofNat_toNat (x := u) ▸ h u.toNat hlt

instance : WireEnum Bool where
  raw b := if b then 1 else 0
  ofRaw u := u ≠ 0
  last := 1
  raw_ofRaw := forall_byte_le _ (by decide)

instance : WireEnum DataType where
  raw := DataType.raw
  ofRaw := DataType.ofRaw
  last := 3
  raw_ofRaw := forall_byte_le _ (by decide)

instance : WireEnum ScanPattern where
  raw
    | .kNonRepetitive => 0
    | .kRepetitive => 1
    | .kLowRateRepetitive => 2
  ofRaw u := if u = 0 then .kNonRepetitive else if u = 1 then .kRepetitive else .kLowRateRepetitive
  last := 2
  raw_ofRaw := forall_byte_le _ (by decide)

instance : WireEnum DetectMode where
  raw
    | .kNormal => 0
    | .kSensitive => 1
  ofRaw u := if u = 0 then .kNormal else .kSensitive
  last := 1
  raw_ofRaw := forall_byte_le _ (by decide)

instance : WireEnum FuncOut where
  raw
    | .kNone => 0
    | .kFollowInput => 1
    | .kSafetyZone => 2
  ofRaw u := if u = 0 then .kNone else if u = 1 then .kFollowInput else .kSafetyZone
  last := 2
  raw_ofRaw := forall_byte_le _ (by decide)

instance : WireEnum ImuOutputRate where
  raw
    | .k200Hz => 0
    | .k500Hz => 1
    | .k100Hz => 2
    | .k50Hz => 3
  ofRaw u := if u = 0 then .k200Hz else if u = 1 then .k500Hz else if u = 2 then .k100Hz else .k50Hz
  last := 3
  raw_ofRaw := forall_byte_le _ (by decide)

instance : WireEnum ImuAccelRange where
  raw
    | .k4g => 0
    | .k8g => 1
    | .k16g => 2
    | .k32g => 3
  ofRaw u := if u = 0 then .k4g else if u = 1 then .k8g else if u = 2 then .k16g else .k32g
  last := 3
  raw_ofRaw := forall_byte_le _ (by decide)

instance : WireEnum ImuGyroRange where
  raw
    | .k2000dps => 0
    | .k1000dps => 1
    | .k500dps => 2
    | .k250dps => 3
    | .k125dps => 4
    | .k62_5dps => 5
    | .k31_25dps => 6
    | .k15_625dps => 7
  ofRaw u :=
    if u = 0 then .k2000dps else if u = 1 then .k1000dps else if u = 2 then .k500dps
    else if u = 3 then .k250dps else if u = 4 then .k125dps else if u = 5 then .k62_5dps
    else if u = 6 then .k31_25dps else .k15_625dps
  last := 7
  raw_ofRaw := forall_byte_le _ (by decide)

instance : WireEnum TimeSyncType where
  raw
    | .kNone => 0
    | .kPtp => 1
    | .kGps => 2
  ofRaw u := if u = 0 then .kNone else if u = 1 then .kPtp else .kGps
  last := 2
  raw_ofRaw := forall_byte_le _ (by decide)

instance : WireEnum FwType where
  raw
    | .kLoader => 0
    | .kApp => 1
  ofRaw u := if u = 0 then .kLoader else .kApp
  last := 1
  raw_ofRaw := forall_byte_le _ (by decide)

instance : WireEnum DiagLevel where
  raw
    | .kNormal => 0
    | .kWarning => 1
    | .kError => 2
    | .kSafetyError => 3
  ofRaw u :=
    if u = 0 then .kNormal else if u = 1 then .kWarning else if u = 2 then .kError
    else .kSafetyError
  last := 3
  raw_ofRaw := forall_byte_le _ (by decide)

/-- LiDAR working state (keys 0x8006 and 0x001A).  The values have gaps. -/
inductive WorkState where
  | kSampling
  | kIdle
  | kError
  | kSelfCheck
  | kMotorStartup
  | kUpgrade
  | kReady
deriving DecidableEq, Repr

/-- The wire value. -/
def WorkState.raw : WorkState → UInt8
  | kSampling => 0x01
  | kIdle => 0x02
  | kError => 0x04
  | kSelfCheck => 0x05
  | kMotorStartup => 0x06
  | kUpgrade => 0x08
  | kReady => 0x09

/-! ## Typed values -/

/-- An IPv4 address in network order. -/
structure Ipv4 where
  a : UInt8
  b : UInt8
  c : UInt8
  d : UInt8
deriving DecidableEq, Repr

def Ipv4.bytes (ip : Ipv4) : List UInt8 := [ip.a, ip.b, ip.c, ip.d]

/-- Keys 0x0005, 0x0006 and 0x0007: where the LiDAR sends one kind of data. -/
structure HostIpConfig where
  ip : Ipv4
  dstPort : UInt16
  srcPort : UInt16
deriving DecidableEq, Repr

/-- Key 0x0004: the LiDAR's own network configuration. -/
structure LidarIpConfig where
  ip : Ipv4
  netmask : Ipv4
  gateway : Ipv4
deriving DecidableEq, Repr

/-- Key 0x0012: mounting rotation in degrees and offset in millimetres. -/
structure InstallAttitude where
  rollDeg : Float32
  pitchDeg : Float32
  yawDeg : Float32
  xMm : Int32
  yMm : Int32
  zMm : Int32

/-- Key 0x0019: the functions of the pins. -/
structure FuncIoConfig where
  in0 : FuncIn0
  in1 : FuncIn1
  out0 : FuncOut
  out1 : FuncOut
deriving DecidableEq, Repr

/-- Keys 0x0015 and 0x0016: one FOV window in degrees. -/
structure FovConfig where
  yawStartDeg : Int32
  yawStopDeg : Int32
  pitchStartDeg : Int32
  pitchStopDeg : Int32
  rsvd : UInt32
deriving DecidableEq, Repr

/-- Key 0x0017: which windows crop the point cloud. -/
structure FovEnable where
  fov0 : Bool
  fov1 : Bool
deriving DecidableEq, Repr

/-- The three FOV keys together. -/
structure FovSettings where
  fov0 : Option FovConfig := none
  fov1 : Option FovConfig := none
  enable : Option FovEnable := none
deriving DecidableEq, Repr

/-- Key 0x002B. -/
structure ImuSensorConfig where
  outputRate : ImuOutputRate
  accelRange : ImuAccelRange
  gyroRange : ImuGyroRange
deriving DecidableEq, Repr

/-- Key 0x800E, split into four subsystem levels. -/
structure DiagStatus where
  system : DiagLevel := .kNormal
  scan : DiagLevel := .kNormal
  ranging : DiagLevel := .kNormal
  communication : DiagLevel := .kNormal
deriving DecidableEq, Repr

/-- `fov_in_range`: yaw in [0, 360], pitch in [-10, 60], and no reversed window. -/
def fovInRange (f : FovConfig) : Bool :=
  let yaw (v : Int32) : Bool := v ≥ 0 && v ≤ 360
  let pitch (v : Int32) : Bool := v ≥ -10 && v ≤ 60
  yaw f.yawStartDeg && yaw f.yawStopDeg && pitch f.pitchStartDeg && pitch f.pitchStopDeg &&
    f.yawStartDeg ≤ f.yawStopDeg && f.pitchStartDeg ≤ f.pitchStopDeg

/-! ## Encoders -/

def encodeU8 (v : UInt8) : List UInt8 := [v]

def encodeEnumU8 {E : Type} [WireEnum E] (v : E) : List UInt8 := encodeU8 (WireEnum.raw v)

def encodeFovEnable (e : FovEnable) : List UInt8 :=
  encodeU8 ((if e.fov0 then 1 else 0) ||| (if e.fov1 then 2 else 0))

def encodeHostIpConfig (c : HostIpConfig) : List UInt8 :=
  let o : List UInt8 := List.replicate 8 0
  let o := overwrite o 0 c.ip.bytes
  let o := writeLe o 4 c.dstPort
  writeLe o 6 c.srcPort

def encodeFovConfig (f : FovConfig) : List UInt8 :=
  let o : List UInt8 := List.replicate 20 0
  let o := writeLe o 0 f.yawStartDeg.toUInt32
  let o := writeLe o 4 f.yawStopDeg.toUInt32
  let o := writeLe o 8 f.pitchStartDeg.toUInt32
  let o := writeLe o 12 f.pitchStopDeg.toUInt32
  writeLe o 16 f.rsvd

def encodeImuSensorConfig (c : ImuSensorConfig) : List UInt8 :=
  [WireEnum.raw c.outputRate, WireEnum.raw c.accelRange, WireEnum.raw c.gyroRange]

/-! ## Decoders -/

/-- `decode_scalar`, for the unsigned types. -/
def decodeScalar (α : Type) [LeWord α] (v : List UInt8) : Except KeyError α :=
  if v.length ≠ LeWord.size α then .error .kWrongLength else .ok (readLe α v 0)

def decodeU8 (v : List UInt8) : Except KeyError UInt8 := decodeScalar UInt8 v
def decodeU16 (v : List UInt8) : Except KeyError UInt16 := decodeScalar UInt16 v
def decodeU32 (v : List UInt8) : Except KeyError UInt32 := decodeScalar UInt32 v
def decodeI32 (v : List UInt8) : Except KeyError Int32 := (decodeScalar UInt32 v).map UInt32.toInt32
def decodeU64 (v : List UInt8) : Except KeyError UInt64 := decodeScalar UInt64 v
def decodeI64 (v : List UInt8) : Except KeyError Int64 := (decodeScalar UInt64 v).map UInt64.toInt64

/-- A byte up to `max`, cast to the enumeration. -/
def decodeEnumU8 (E : Type) [WireEnum E] (v : List UInt8) (max : UInt8) : Except KeyError E :=
  match decodeU8 v with
  | .error e => .error e
  | .ok u => if u > max then .error .kOutOfRange else .ok (WireEnum.ofRaw u)

def decodeBool (v : List UInt8) : Except KeyError Bool := decodeEnumU8 Bool v 1

/-- Unlike the other enumerations, one value inside the range is refused: points
cannot be requested in the IMU format. -/
def decodeDataType (v : List UInt8) : Except KeyError DataType :=
  match decodeEnumU8 DataType v 3 with
  | .error e => .error e
  | .ok d => if d = .kImu then .error .kOutOfRange else .ok d

def decodeScanPattern (v : List UInt8) : Except KeyError ScanPattern := decodeEnumU8 ScanPattern v 2
def decodeDetectMode (v : List UInt8) : Except KeyError DetectMode := decodeEnumU8 DetectMode v 1
def decodeTimeSyncType (v : List UInt8) : Except KeyError TimeSyncType :=
  decodeEnumU8 TimeSyncType v 2
def decodeFwType (v : List UInt8) : Except KeyError FwType := decodeEnumU8 FwType v 1

def decodeWorkState (v : List UInt8) : Except KeyError WorkState :=
  match decodeU8 v with
  | .error e => .error e
  | .ok u =>
    if u = 0x01 then .ok .kSampling
    else if u = 0x02 then .ok .kIdle
    else if u = 0x04 then .ok .kError
    else if u = 0x05 then .ok .kSelfCheck
    else if u = 0x06 then .ok .kMotorStartup
    else if u = 0x08 then .ok .kUpgrade
    else if u = 0x09 then .ok .kReady
    else .error .kOutOfRange

def decodeFovEnable (v : List UInt8) : Except KeyError FovEnable :=
  match decodeU8 v with
  | .error e => .error e
  | .ok u =>
    if u &&& ~~~0x03 ≠ 0 then .error .kOutOfRange
    else .ok { fov0 := u &&& 1 ≠ 0, fov1 := u &&& 2 ≠ 0 }

def decodeIpv4 (v : List UInt8) (offset : ℕ) : Ipv4 where
  a := readLe UInt8 v offset
  b := readLe UInt8 v (offset + 1)
  c := readLe UInt8 v (offset + 2)
  d := readLe UInt8 v (offset + 3)

def decodeHostIpConfig (v : List UInt8) : Except KeyError HostIpConfig :=
  if v.length ≠ 8 then .error .kWrongLength
  else .ok
    { ip := decodeIpv4 v 0
      dstPort := readLe UInt16 v 4
      srcPort := readLe UInt16 v 6 }

def decodeLidarIpConfig (v : List UInt8) : Except KeyError LidarIpConfig :=
  if v.length ≠ 12 then .error .kWrongLength
  else .ok
    { ip := decodeIpv4 v 0
      netmask := decodeIpv4 v 4
      gateway := decodeIpv4 v 8 }

def decodeInstallAttitude (v : List UInt8) : Except KeyError InstallAttitude :=
  if v.length ≠ 24 then .error .kWrongLength
  else .ok
    { rollDeg := .ofBits (readLe UInt32 v 0)
      pitchDeg := .ofBits (readLe UInt32 v 4)
      yawDeg := .ofBits (readLe UInt32 v 8)
      xMm := (readLe UInt32 v 12).toInt32
      yMm := (readLe UInt32 v 16).toInt32
      zMm := (readLe UInt32 v 20).toInt32 }

/-- The bytes are cast first and checked by `func_io_config_valid`: an input pin has the one
function there is, an output pin one of three. -/
def decodeFuncIoConfig (v : List UInt8) : Except KeyError FuncIoConfig :=
  if v.length ≠ 4 then .error .kWrongLength
  else
    let in0 := readLe UInt8 v 0
    let in1 := readLe UInt8 v 1
    let out0 := readLe UInt8 v 2
    let out1 := readLe UInt8 v 3
    if in0 ≠ 0 ∨ in1 ≠ 0 ∨ out0 > 2 ∨ out1 > 2 then .error .kOutOfRange
    else .ok
      { in0 := .kPps
        in1 := .kGps
        out0 := WireEnum.ofRaw out0
        out1 := WireEnum.ofRaw out1 }

/-- The value's length is all that is checked: any window decodes. -/
def decodeFovConfig (v : List UInt8) : Except KeyError FovConfig :=
  if v.length ≠ 20 then .error .kWrongLength
  else .ok
    { yawStartDeg := (readLe UInt32 v 0).toInt32
      yawStopDeg := (readLe UInt32 v 4).toInt32
      pitchStartDeg := (readLe UInt32 v 8).toInt32
      pitchStopDeg := (readLe UInt32 v 12).toInt32
      rsvd := readLe UInt32 v 16 }

def decodeImuSensorConfig (v : List UInt8) : Except KeyError ImuSensorConfig :=
  if v.length ≠ 3 then .error .kWrongLength
  else
    let r := readLe UInt8 v 0
    let a := readLe UInt8 v 1
    let g := readLe UInt8 v 2
    if r > 3 ∨ a > 3 ∨ g > 7 then .error .kOutOfRange
    else .ok
      { outputRate := WireEnum.ofRaw r
        accelRange := WireEnum.ofRaw a
        gyroRange := WireEnum.ofRaw g }

def decodeDiagStatus (v : List UInt8) : Except KeyError DiagStatus :=
  match decodeU16 v with
  | .error e => .error e
  | .ok raw =>
    let nibble (shift : UInt16) : UInt16 := (raw >>> shift) &&& 0xF
    if [0, 4, 8, 12].any fun shift => nibble shift > 3 then .error .kOutOfRange
    else .ok
      { system := WireEnum.ofRaw (nibble 0).toUInt8
        scan := WireEnum.ofRaw (nibble 4).toUInt8
        ranging := WireEnum.ofRaw (nibble 8).toUInt8
        communication := WireEnum.ofRaw (nibble 12).toUInt8 }

/-- The eight raw codes of key 0x8011. -/
def decodeHmsCodes (v : List UInt8) : Except KeyError (Vector UInt32 8) :=
  if v.length ≠ 32 then .error .kWrongLength
  else .ok (Vector.ofFn fun i => readLe UInt32 v (4 * i))

/-! ## What is decoded is encoded back -/

variable {v : List UInt8}

theorem decodeU8_eq_ok_iff {u : UInt8} : decodeU8 v = .ok u ↔ v = [u] := by
  constructor
  · intro h
    unfold decodeU8 decodeScalar at h
    split at h
    · cases h
    · rename_i hlen
      obtain ⟨x, rfl⟩ := List.length_eq_one_iff.mp (not_not.mp hlen)
      have hx : x = u := by simpa [readLe, slice, decodeLe, LeWord.ofNat] using h
      rw [hx]
  · rintro rfl
    simp [decodeU8, decodeScalar, readLe, slice, decodeLe, LeWord.ofNat]

/-- **An accepted enumeration byte survives the round trip.** -/
theorem encode_of_decodeEnumU8 {E : Type} [WireEnum E] {max : UInt8} {e : E}
    (hmax : max ≤ WireEnum.last E) (h : decodeEnumU8 E v max = .ok e) : encodeEnumU8 e = v := by
  unfold decodeEnumU8 at h
  split at h
  · cases h
  · rename_i u hu
    split at h
    · cases h
    · rename_i hle
      cases h
      rw [encodeEnumU8, WireEnum.raw_ofRaw u (UInt8.le_trans (UInt8.not_lt.mp hle) hmax), encodeU8,
        decodeU8_eq_ok_iff.mp hu]

theorem encode_of_decodeDataType {d : DataType} (h : decodeDataType v = .ok d) :
    encodeEnumU8 d = v := by
  unfold decodeDataType at h
  split at h
  · cases h
  · rename_i d' hd
    split at h
    · cases h
    · cases h
      exact encode_of_decodeEnumU8 (by decide) hd

/-- A byte with no bit above the second is a combination of the two flags. -/
private theorem flags_of_mask (u : UInt8) : u &&& ~~~0x03 = 0 →
    ((if u &&& 1 ≠ 0 then 1 else 0) ||| (if u &&& 2 ≠ 0 then 2 else 0) : UInt8) = u := by
  have hall : ∀ n : Fin 256, UInt8.ofNat n &&& ~~~0x03 = 0 →
      ((if UInt8.ofNat n &&& 1 ≠ 0 then 1 else 0) |||
        (if UInt8.ofNat n &&& 2 ≠ 0 then 2 else 0) : UInt8) = UInt8.ofNat n := by
    decide +kernel
  exact UInt8.ofNat_toNat (x := u) ▸ hall ⟨u.toNat, u.toNat_lt⟩

theorem encode_of_decodeFovEnable {e : FovEnable} (h : decodeFovEnable v = .ok e) :
    encodeFovEnable e = v := by
  unfold decodeFovEnable at h
  split at h
  · cases h
  · rename_i u hu
    split at h
    · cases h
    · rename_i hmask
      cases h
      rw [decodeU8_eq_ok_iff.mp hu, encodeFovEnable, encodeU8]
      simpa using flags_of_mask u (not_not.mp hmask)

theorem encode_of_decodeImuSensorConfig {c : ImuSensorConfig}
    (h : decodeImuSensorConfig v = .ok c) : encodeImuSensorConfig c = v := by
  unfold decodeImuSensorConfig at h
  split at h
  · cases h
  · rename_i hlen
    dsimp only at h
    split at h
    · cases h
    · rename_i hrange
      cases h
      simp only [not_or, gt_iff_lt, UInt8.not_lt] at hrange
      obtain ⟨hr, ha, hg⟩ := hrange
      rw [encodeImuSensorConfig, WireEnum.raw_ofRaw _ hr, WireEnum.raw_ofRaw _ ha,
        WireEnum.raw_ofRaw _ hg]
      obtain ⟨r, a, g, rfl⟩ := List.length_eq_three.mp (not_not.mp hlen)
      simp [readLe, slice, decodeLe, LeWord.ofNat]

theorem encode_of_decodeFovConfig {f : FovConfig} (h : decodeFovConfig v = .ok f) :
    encodeFovConfig f = v := by
  unfold decodeFovConfig at h
  split at h
  · cases h
  · rename_i hlen
    cases h
    have hlen : v.length = 20 := not_not.mp hlen
    -- Each store extends the copied prefix of `v` by one word.
    have hcopy (rest : List UInt8) (off : ℕ) (hoff : off + 4 ≤ 20) :
        writeLe (v.take off ++ rest) off (readLe UInt32 v off) = v.take (off + 4) ++ rest.drop 4 :=
      writeLe_readLe (by simpa [hlen] using hoff)
    have hstart := hcopy (List.replicate 20 0) 0 (by decide)
    rw [List.take_zero, List.nil_append] at hstart
    simp only [encodeFovConfig, UInt32.toUInt32_toInt32]
    rw [hstart, hcopy _ 4 (by decide), hcopy _ 8 (by decide), hcopy _ 12 (by decide),
      hcopy _ 16 (by decide)]
    simp [← hlen]

theorem encodeFovConfig_eq (f : FovConfig) :
    encodeFovConfig f = encodeLe f.yawStartDeg.toUInt32 ++ (encodeLe f.yawStopDeg.toUInt32 ++
      (encodeLe f.pitchStartDeg.toUInt32 ++ (encodeLe f.pitchStopDeg.toUInt32 ++
        encodeLe f.rsvd))) := by
  have hstart : writeLe (List.replicate 20 0) 0 f.yawStartDeg.toUInt32 =
      encodeLe f.yawStartDeg.toUInt32 ++ (List.replicate 20 0).drop 4 :=
    writeLe_append (List.length_nil) _ _
  rw [encodeFovConfig, hstart, writeLe_append (by simp), writeLe_append (by simp),
    writeLe_append (by simp), writeLe_append (by simp)]
  simp

/-- A window that was sent decodes to itself. -/
theorem decodeFovConfig_encodeFovConfig (f : FovConfig) :
    decodeFovConfig (encodeFovConfig f) = .ok f := by
  rw [decodeFovConfig, encodeFovConfig_eq, if_neg (by simp)]
  simp [readLe_append_of_le, readLe_append_zero, readLe_encodeLe]

end LivoxMid360
