import LivoxMid360.Keys

/-!
# What the LiDAR reports of itself

The status keys of a state push or an inquire, decoded into one record
(`lidar_info.cpp`), and the diagnostic codes among them (`hms.hpp`); and the settings,
which an inquire reads.  A key that is absent, or whose first entry does not decode,
leaves its field empty.
-/

namespace LivoxMid360

open LittleEndian

/-! ## Diagnostic codes -/

/-- Abnormal level, the low byte of a code; not checked when it is cast. -/
structure HmsLevel where
  raw : UInt8
deriving DecidableEq, Repr

def HmsLevel.kNone : HmsLevel := ⟨0⟩

/-- One decoded code of key 0x8011. -/
structure HmsCode where
  abnormalId : UInt16
  level : HmsLevel
  reserved : UInt8
  raw : UInt32
deriving DecidableEq, Repr

/-- False for an unused slot. -/
def HmsCode.active (c : HmsCode) : Bool := c.raw ≠ 0

def decodeHms (raw : UInt32) : HmsCode where
  abnormalId := (raw >>> 16).toUInt16
  level := ⟨(raw &&& 0xFF).toUInt8⟩
  reserved := ((raw >>> 8) &&& 0xFF).toUInt8
  raw := raw

/-! ## Status -/

/-- The decoded status keys. -/
structure LidarStatus where
  timeNs : UInt64 := 0
  curWorkState : Option WorkState := none
  coreTemp : Option Int32 := none
  powerupCnt : Option UInt32 := none
  localTimeNow : Option UInt64 := none
  lastSyncTime : Option UInt64 := none
  timeOffset : Option Int64 := none
  timeSyncType : Option TimeSyncType := none
  lidarDiagStatus : Option DiagStatus := none
  fwType : Option FwType := none
  hmsCode : Option (Vector HmsCode 8) := none
deriving DecidableEq

/-- `decode_opt`: the first entry with the key, if it decodes. -/
def decodeOpt {α : Type} (key : Key) (decode : List UInt8 → Except KeyError α)
    (kvs : List KeyValue) : Option α :=
  match findKey kvs key with
  | none => none
  | some raw =>
    match decode raw with
    | .ok v => some v
    | .error _ => none

/-- The slots of key 0x8011. -/
def decodeHmsSlots (v : List UInt8) : Except KeyError (Vector HmsCode 8) :=
  match decodeHmsCodes v with
  | .ok codes => .ok (codes.map decodeHms)
  | .error e => .error e

/-- `decode_status`. -/
def decodeStatus (kvs : List KeyValue) : LidarStatus where
  curWorkState := decodeOpt .kCurWorkState decodeWorkState kvs
  coreTemp := decodeOpt .kCoreTemp decodeI32 kvs
  powerupCnt := decodeOpt .kPowerupCnt decodeU32 kvs
  localTimeNow := decodeOpt .kLocalTimeNow decodeU64 kvs
  lastSyncTime := decodeOpt .kLastSyncTime decodeU64 kvs
  timeOffset := decodeOpt .kTimeOffset decodeI64 kvs
  timeSyncType := decodeOpt .kTimeSyncType decodeTimeSyncType kvs
  lidarDiagStatus := decodeOpt .kLidarDiagStatus decodeDiagStatus kvs
  fwType := decodeOpt .kFwType decodeFwType kvs
  hmsCode := decodeOpt .kHmsCode decodeHmsSlots kvs

/-! ## Settings -/

/-- The decoded writable keys. -/
structure LidarSettings where
  pclDataType : Option DataType := none
  patternMode : Option ScanPattern := none
  lidarIpcfg : Option LidarIpConfig := none
  stateInfoHostIpcfg : Option HostIpConfig := none
  pointcloudHostIpcfg : Option HostIpConfig := none
  imuHostIpcfg : Option HostIpConfig := none
  installAttitude : Option InstallAttitude := none
  fovCfg0 : Option FovConfig := none
  fovCfg1 : Option FovConfig := none
  fovCfgEn : Option FovEnable := none
  detectMode : Option DetectMode := none
  funcIoCfg : Option FuncIoConfig := none
  workTgtMode : Option WorkState := none
  imuDataEn : Option Bool := none
  timeFilter : Option Bool := none
  imuSensorCfg : Option ImuSensorConfig := none

/-- The keys `decode_settings` reads, for one inquire. -/
def kSettingsKeys : List Key :=
  [.kPclDataType, .kPatternMode, .kLidarIpCfg, .kStateInfoHostIpCfg, .kPointCloudHostIpCfg,
    .kImuHostIpCfg, .kInstallAttitude, .kFovCfg0, .kFovCfg1, .kFovCfgEn, .kDetectMode,
    .kFuncIoCfg, .kWorkTgtMode, .kImuDataEn, .kTimeFilter, .kImuSensorCfg]

/-- `decode_settings`. -/
def decodeSettings (kvs : List KeyValue) : LidarSettings where
  pclDataType := decodeOpt .kPclDataType decodeDataType kvs
  patternMode := decodeOpt .kPatternMode decodeScanPattern kvs
  lidarIpcfg := decodeOpt .kLidarIpCfg decodeLidarIpConfig kvs
  stateInfoHostIpcfg := decodeOpt .kStateInfoHostIpCfg decodeHostIpConfig kvs
  pointcloudHostIpcfg := decodeOpt .kPointCloudHostIpCfg decodeHostIpConfig kvs
  imuHostIpcfg := decodeOpt .kImuHostIpCfg decodeHostIpConfig kvs
  installAttitude := decodeOpt .kInstallAttitude decodeInstallAttitude kvs
  fovCfg0 := decodeOpt .kFovCfg0 decodeFovConfig kvs
  fovCfg1 := decodeOpt .kFovCfg1 decodeFovConfig kvs
  fovCfgEn := decodeOpt .kFovCfgEn decodeFovEnable kvs
  detectMode := decodeOpt .kDetectMode decodeDetectMode kvs
  funcIoCfg := decodeOpt .kFuncIoCfg decodeFuncIoConfig kvs
  workTgtMode := decodeOpt .kWorkTgtMode decodeWorkState kvs
  imuDataEn := decodeOpt .kImuDataEn decodeBool kvs
  timeFilter := decodeOpt .kTimeFilter decodeBool kvs
  imuSensorCfg := decodeOpt .kImuSensorCfg decodeImuSensorConfig kvs

end LivoxMid360
