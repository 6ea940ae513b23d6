import LivoxMid360.Crc
import LivoxMid360.Lib.LittleEndian

/-!
# The wire protocol

The pure protocol layer (`protocol.hpp`, `protocol.cpp`): command frames, data
packets and key-value lists.  A byte span is a `List UInt8`; a view into a span
is the list of the bytes it covers.  Integer fields keep the width they have in
the source, so a header value that does not fit its field cannot be built.

Two enumerations of the source are opened by a cast from a raw byte without a
check, `TimeType` and the pair `CmdType` / `SenderType`.  They are wrappers
around the raw byte here, with the named values as constants.  `DataType` is the
opposite: `parse_data_packet` rejects every other raw value, so it is an
inductive type.

Memory is taken to be available: `out.resize(...)`, and `out.reserve(key_num)` up
to the `max_size()` of the vector, succeed.
-/

namespace LivoxMid360

open LittleEndian Crc

/-! ## Constants -/

def kCommandSof : UInt8 := 0xAA
def kProtocolVersion : UInt8 := 0
def kCommandHeaderSize : ℕ := 24
def kCommandFrameMaxSize : ℕ := 1400
def kCommandDataMaxSize : ℕ := kCommandFrameMaxSize - kCommandHeaderSize
def kDataPacketHeaderSize : ℕ := 36

/-! ## Enumerations -/

/-- Request or acknowledgement, as carried on the wire. -/
structure CmdType where
  raw : UInt8
deriving DecidableEq, Repr

namespace CmdType

def kReq : CmdType := ⟨0x00⟩
def kAck : CmdType := ⟨0x01⟩

end CmdType

/-- Originator of a command frame, as carried on the wire. -/
structure SenderType where
  raw : UInt8
deriving DecidableEq, Repr

namespace SenderType

def kHost : SenderType := ⟨0x00⟩
def kLidar : SenderType := ⟨0x01⟩

end SenderType

/-- Sample format of a data packet. -/
inductive DataType where
  | kImu
  | kCartesian32
  | kCartesian16
  | kSpherical
deriving DecidableEq, Repr

namespace DataType

/-- The wire value. -/
def raw : DataType → UInt8
  | kImu => 0
  | kCartesian32 => 1
  | kCartesian16 => 2
  | kSpherical => 3

/-- `static_cast<DataType>` of a raw value that has passed the range check. -/
def ofRaw (b : UInt8) : DataType :=
  if b = 0 then kImu
  else if b = 1 then kCartesian32
  else if b = 2 then kCartesian16
  else kSpherical

end DataType

/-- Clock source of a data packet timestamp, as carried on the wire. -/
structure TimeType where
  raw : UInt8
deriving DecidableEq, Repr

namespace TimeType

def kNoSync : TimeType := ⟨0⟩

end TimeType

/-- Why a frame, packet or payload was rejected. -/
inductive ParseError where
  | kTooShort
  | kBadSof
  | kBadVersion
  | kLengthMismatch
  | kBadCrc16
  | kBadCrc32
  | kUnknownDataType
  | kBadDotNum
  | kTruncated
  | kKeyNumMismatch
deriving DecidableEq, Repr

/-- `to_string(ParseError)`. -/
def ParseError.toString : ParseError → String
  | kTooShort => "too short"
  | kBadSof => "bad SOF"
  | kBadVersion => "bad version"
  | kLengthMismatch => "length mismatch"
  | kBadCrc16 => "bad CRC16"
  | kBadCrc32 => "bad CRC32"
  | kUnknownDataType => "unknown data_type"
  | kBadDotNum => "bad dot_num"
  | kTruncated => "truncated"
  | kKeyNumMismatch => "key_num mismatch"

/-- Why `encode_command_frame` or `build_command_frame` failed. -/
inductive EncodeError where
  | kDataTooLarge
  | kBufferTooSmall
deriving DecidableEq, Repr

/-! ## Command frames -/

structure CommandHeader where
  length : UInt16
  seqNum : UInt32
  cmdId : UInt16
  cmdType : CmdType
  senderType : SenderType
  resv : List UInt8
  crc16 : UInt16
  crc32 : UInt32
deriving DecidableEq, Repr

structure CommandFrameView where
  header : CommandHeader
  data : List UInt8
deriving DecidableEq, Repr

/-- The CRC-32 field of a command payload: zero for an empty one. -/
def payloadCrc32 (data : List UInt8) : UInt32 :=
  if data = [] then 0 else Crc.crc32 data

/-- The header fields of a buffer of at least 24 bytes. -/
def readCommandHeader (frame : List UInt8) : CommandHeader where
  length := readLe UInt16 frame 2
  seqNum := readLe UInt32 frame 4
  cmdId := readLe UInt16 frame 8
  cmdType := ⟨readLe UInt8 frame 10⟩
  senderType := ⟨readLe UInt8 frame 11⟩
  resv := slice frame 12 6
  crc16 := readLe UInt16 frame 18
  crc32 := readLe UInt32 frame 20

/-- `parse_command_frame`. -/
def parseCommandFrame (frame : List UInt8) : Except ParseError CommandFrameView :=
  if frame.length < kCommandHeaderSize then .error .kTooShort
  else if readLe UInt8 frame 0 ≠ kCommandSof then .error .kBadSof
  else if readLe UInt8 frame 1 ≠ kProtocolVersion then .error .kBadVersion
  else
    let h := readCommandHeader frame
    if h.length.toNat < kCommandHeaderSize ∨ h.length.toNat > kCommandFrameMaxSize ∨
        h.length.toNat > frame.length then .error .kLengthMismatch
    else if crc16CcittFalse (frame.take 18) ≠ h.crc16 then .error .kBadCrc16
    else
      let data := slice frame kCommandHeaderSize (h.length.toNat - kCommandHeaderSize)
      if payloadCrc32 data ≠ h.crc32 then .error .kBadCrc32
      else .ok ⟨h, data⟩

/-- What `encode_command_frame` writes; length and both CRCs are computed from
it. -/
structure CommandFrameSpec where
  seqNum : UInt32 := 0
  cmdId : UInt16 := 0
  cmdType : CmdType := .kReq
  senderType : SenderType := .kHost
  data : List UInt8 := []
deriving DecidableEq, Repr

def commandFrameSize (dataSize : ℕ) : ℕ :=
  kCommandHeaderSize + dataSize

/-- `encode_command_frame`: the bytes written and the buffer afterwards. -/
def encodeCommandFrame (out : List UInt8) (spec : CommandFrameSpec) :
    Except EncodeError (ℕ × List UInt8) :=
  if spec.data.length > kCommandDataMaxSize then .error .kDataTooLarge
  else
    let total := commandFrameSize spec.data.length
    if out.length < total then .error .kBufferTooSmall
    else
      let out := writeLe out 0 kCommandSof
      let out := writeLe out 1 kProtocolVersion
      let out := writeLe out 2 (UInt16.ofNat total)
      let out := writeLe out 4 spec.seqNum
      let out := writeLe out 8 spec.cmdId
      let out := writeLe out 10 spec.cmdType.raw
      let out := writeLe out 11 spec.senderType.raw
      let out := overwrite out 12 (List.replicate 6 0)
      let out := writeLe out 18 (crc16CcittFalse (out.take 18))
      let out := overwrite out kCommandHeaderSize spec.data
      let out := writeLe out 20 (payloadCrc32 spec.data)
      .ok (total, out)

/-- `build_command_frame`: a zeroed buffer of the exact size, then
`encode_command_frame`. -/
def buildCommandFrame (spec : CommandFrameSpec) : Except EncodeError (List UInt8) :=
  match encodeCommandFrame (List.replicate (commandFrameSize spec.data.length) 0) spec with
  | .ok (_, buf) => .ok buf
  | .error e => .error e

/-- What `parse_command_frame` has checked when it returns the view `v`. -/
structure CommandFrameAccepted (frame : List UInt8) (v : CommandFrameView) : Prop where
  header_fits : kCommandHeaderSize ≤ frame.length
  sof : readLe UInt8 frame 0 = kCommandSof
  version : readLe UInt8 frame 1 = kProtocolVersion
  header_eq : v.header = readCommandHeader frame
  length_ge : kCommandHeaderSize ≤ v.header.length.toNat
  length_le : v.header.length.toNat ≤ kCommandFrameMaxSize
  length_fits : v.header.length.toNat ≤ frame.length
  crc16 : crc16CcittFalse (frame.take 18) = v.header.crc16
  data_eq : v.data = slice frame kCommandHeaderSize (v.header.length.toNat - kCommandHeaderSize)
  crc32 : payloadCrc32 v.data = v.header.crc32

theorem parseCommandFrame_eq_ok_iff {frame : List UInt8} {v : CommandFrameView} :
    parseCommandFrame frame = .ok v ↔ CommandFrameAccepted frame v := by
  constructor
  · intro h
    simp only [parseCommandFrame] at h
    split_ifs at h with hshort hsof hversion hlength hcrc16 hcrc32
    cases h
    simp only [not_or, not_lt, gt_iff_lt, not_not] at *
    exact ⟨hshort, hsof, hversion, rfl, hlength.1, hlength.2.1, hlength.2.2, hcrc16, rfl, hcrc32⟩
  · rintro ⟨hshort, hsof, hversion, hheader, hge, hle, hfits, hcrc16, hdata, hcrc32⟩
    obtain ⟨header, data⟩ := v
    subst hheader
    dsimp only at *
    subst hdata
    have hlength : ¬((readCommandHeader frame).length.toNat < kCommandHeaderSize ∨
        (readCommandHeader frame).length.toNat > kCommandFrameMaxSize ∨
        (readCommandHeader frame).length.toNat > frame.length) := by
      omega
    rw [parseCommandFrame, if_neg hshort.not_gt, if_neg (not_not.mpr hsof),
      if_neg (not_not.mpr hversion)]
    dsimp only
    rw [if_neg hlength, if_neg (not_not.mpr hcrc16), if_neg (not_not.mpr hcrc32)]

/-! ## Data packets -/

structure DataPacketHeader where
  version : UInt8 := 0
  length : UInt16 := 0
  timeInterval : UInt16 := 0
  dotNum : UInt16 := 0
  udpCnt : UInt16 := 0
  frameCnt : UInt8 := 0
  dataType : DataType := .kCartesian32
  timeType : TimeType := .kNoSync
  reserved : List UInt8 := List.replicate 12 0
  crc32 : UInt32 := 0
  timestampNs : UInt64 := 0
deriving DecidableEq, Repr

structure DataPacketView where
  header : DataPacketHeader
  data : List UInt8
deriving DecidableEq, Repr

/-- Bytes per sample for a data type. -/
def sampleSize : DataType → ℕ
  | .kImu => 24
  | .kCartesian32 => 14
  | .kCartesian16 => 8
  | .kSpherical => 10

/-- The header fields of a buffer of at least 36 bytes. -/
def readDataPacketHeader (packet : List UInt8) : DataPacketHeader where
  version := readLe UInt8 packet 0
  length := readLe UInt16 packet 1
  timeInterval := readLe UInt16 packet 3
  dotNum := readLe UInt16 packet 5
  udpCnt := readLe UInt16 packet 7
  frameCnt := readLe UInt8 packet 9
  dataType := .ofRaw (readLe UInt8 packet 10)
  timeType := ⟨readLe UInt8 packet 11⟩
  reserved := slice packet 12 12
  crc32 := readLe UInt32 packet 24
  timestampNs := readLe UInt64 packet 28

/-- `parse_data_packet`.  A `crc32` of 0 means "no CRC". -/
def parseDataPacket (packet : List UInt8) (verifyCrc : Bool := true) :
    Except ParseError DataPacketView :=
  if packet.length < kDataPacketHeaderSize then .error .kTooShort
  else
    let h := readDataPacketHeader packet
    if h.version ≠ kProtocolVersion then .error .kBadVersion
    else if h.length.toNat < kDataPacketHeaderSize ∨ h.length.toNat > packet.length then
      .error .kLengthMismatch
    else if readLe UInt8 packet 10 > 3 then .error .kUnknownDataType
    else
      let data := slice packet kDataPacketHeaderSize (h.length.toNat - kDataPacketHeaderSize)
      if data.length ≠ h.dotNum.toNat * sampleSize h.dataType then .error .kBadDotNum
      else if verifyCrc ∧ h.crc32 ≠ 0 ∧
          Crc.crc32 (slice packet 28 (8 + data.length)) ≠ h.crc32 then .error .kBadCrc32
      else .ok ⟨h, data⟩

/-- What `parse_data_packet` has checked when it returns the view `v`. -/
structure DataPacketAccepted (packet : List UInt8) (verifyCrc : Bool) (v : DataPacketView) :
    Prop where
  header_fits : kDataPacketHeaderSize ≤ packet.length
  header_eq : v.header = readDataPacketHeader packet
  version : v.header.version = kProtocolVersion
  length_ge : kDataPacketHeaderSize ≤ v.header.length.toNat
  length_fits : v.header.length.toNat ≤ packet.length
  type_known : readLe UInt8 packet 10 ≤ 3
  data_eq : v.data =
    slice packet kDataPacketHeaderSize (v.header.length.toNat - kDataPacketHeaderSize)
  dot_num : v.data.length = v.header.dotNum.toNat * sampleSize v.header.dataType
  crc32 : verifyCrc = true → v.header.crc32 ≠ 0 →
    Crc.crc32 (slice packet 28 (8 + v.data.length)) = v.header.crc32

theorem parseDataPacket_eq_ok_iff {packet : List UInt8} {verifyCrc : Bool}
    {v : DataPacketView} :
    parseDataPacket packet verifyCrc = .ok v ↔ DataPacketAccepted packet verifyCrc v := by
  constructor
  · intro h
    simp only [parseDataPacket] at h
    split_ifs at h with hshort hversion hlength htype hdot hcrc
    cases h
    simp only [not_or, not_lt, gt_iff_lt, not_not, not_and] at *
    exact ⟨hshort, rfl, hversion, hlength.1, hlength.2, UInt8.not_lt.mp htype, rfl, hdot, hcrc⟩
  · rintro ⟨hshort, hheader, hversion, hge, hfits, htype, hdata, hdot, hcrc⟩
    obtain ⟨header, data⟩ := v
    subst hheader
    dsimp only at *
    subst hdata
    have hlength : ¬((readDataPacketHeader packet).length.toNat < kDataPacketHeaderSize ∨
        (readDataPacketHeader packet).length.toNat > packet.length) := by
      omega
    have hcrc' : ¬(verifyCrc = true ∧ (readDataPacketHeader packet).crc32 ≠ 0 ∧
        Crc.crc32 (slice packet 28 (8 + (slice packet kDataPacketHeaderSize
          ((readDataPacketHeader packet).length.toNat - kDataPacketHeaderSize)).length)) ≠
          (readDataPacketHeader packet).crc32) := by
      rintro ⟨hverify, hnonzero, hne⟩
      exact hne (hcrc hverify hnonzero)
    rw [parseDataPacket, if_neg hshort.not_gt]
    dsimp only
    rw [if_neg (not_not.mpr hversion), if_neg hlength, if_neg (UInt8.not_lt.mpr htype),
      if_neg (not_not.mpr hdot), if_neg hcrc']

variable (p : DataPacketView)

/-- A packet view whose payload holds exactly its `dot_num` samples, as every
view returned by `parse_data_packet` does. -/
def DataPacketView.WellFormed : Prop :=
  p.data.length = p.header.dotNum.toNat * sampleSize p.header.dataType

/-- `sample_timestamp_ns`: the time of the `i`-th sample, in 64-bit arithmetic. -/
def sampleTimestampNs (h : DataPacketHeader) (i : ℕ) : UInt64 :=
  if h.dotNum ≤ 1 ∨ i = 0 then h.timestampNs
  else
    let spanNs := h.timeInterval.toUInt64 * 100
    h.timestampNs + spanNs * UInt64.ofNat i / (h.dotNum.toUInt64 - 1)

/-! ### Samples -/

structure CartesianPoint32 where
  xMm : Int32
  yMm : Int32
  zMm : Int32
  reflectivity : UInt8
  tag : UInt8

structure CartesianPoint16 where
  xCm : Int16
  yCm : Int16
  zCm : Int16
  reflectivity : UInt8
  tag : UInt8

structure SphericalPoint where
  depthMm : UInt32
  thetaCentideg : UInt16
  phiCentideg : UInt16
  reflectivity : UInt8
  tag : UInt8

structure ImuSample where
  gyroX : Float32
  gyroY : Float32
  gyroZ : Float32
  accX : Float32
  accY : Float32
  accZ : Float32

def decodeCartesian32 (i : ℕ) : CartesianPoint32 where
  xMm := (readLe UInt32 p.data (i * 14)).toInt32
  yMm := (readLe UInt32 p.data (i * 14 + 4)).toInt32
  zMm := (readLe UInt32 p.data (i * 14 + 8)).toInt32
  reflectivity := readLe UInt8 p.data (i * 14 + 12)
  tag := readLe UInt8 p.data (i * 14 + 13)

def decodeCartesian16 (i : ℕ) : CartesianPoint16 where
  xCm := (readLe UInt16 p.data (i * 8)).toInt16
  yCm := (readLe UInt16 p.data (i * 8 + 2)).toInt16
  zCm := (readLe UInt16 p.data (i * 8 + 4)).toInt16
  reflectivity := readLe UInt8 p.data (i * 8 + 6)
  tag := readLe UInt8 p.data (i * 8 + 7)

def decodeSpherical (i : ℕ) : SphericalPoint where
  depthMm := readLe UInt32 p.data (i * 10)
  thetaCentideg := readLe UInt16 p.data (i * 10 + 4)
  phiCentideg := readLe UInt16 p.data (i * 10 + 6)
  reflectivity := readLe UInt8 p.data (i * 10 + 8)
  tag := readLe UInt8 p.data (i * 10 + 9)

def decodeImu (i : ℕ) : ImuSample where
  gyroX := .ofBits (readLe UInt32 p.data (i * 24))
  gyroY := .ofBits (readLe UInt32 p.data (i * 24 + 4))
  gyroZ := .ofBits (readLe UInt32 p.data (i * 24 + 8))
  accX := .ofBits (readLe UInt32 p.data (i * 24 + 12))
  accY := .ofBits (readLe UInt32 p.data (i * 24 + 16))
  accZ := .ofBits (readLe UInt32 p.data (i * 24 + 20))

/-! ## Key-value lists -/

structure KeyValue where
  key : UInt16
  value : List UInt8
deriving DecidableEq, Repr

/-- The loop of `parse_key_value_list` with `n` entries to go, at offset `off`.
The offset never passes the end of the input, so the truncated subtractions
agree with those of the source. -/
def parseKeyValueLoop (input : List UInt8) :
    ℕ → ℕ → List KeyValue → Except ParseError (List KeyValue)
  | 0, off, out => if off ≠ input.length then .error .kKeyNumMismatch else .ok out
  | n + 1, off, out =>
    if input.length - off < 4 then .error .kTruncated
    else
      let key := readLe UInt16 input off
      let len := readLe UInt16 input (off + 2)
      let off := off + 4
      if input.length - off < len.toNat then .error .kTruncated
      else parseKeyValueLoop input n (off + len.toNat) (out ++ [⟨key, slice input off len.toNat⟩])

/-- `std::vector<KeyValue>::max_size()`: `PTRDIFF_MAX / sizeof(KeyValue)`, where a
`KeyValue` is a key and a span, 24 bytes on the 64-bit targets. -/
def kKeyValueVectorMaxSize : ℕ := (2 ^ 63 - 1) / 24

/-- `parse_key_value_list`.  The result is `none` when the process is terminated:
`out.reserve(key_num)` throws `std::length_error` above `max_size()`, and the
function is `noexcept`. -/
def parseKeyValueList (input : List UInt8) (keyNum : ℕ) :
    Option (Except ParseError (List KeyValue)) :=
  if keyNum > kKeyValueVectorMaxSize then none
  else some (parseKeyValueLoop input keyNum 0 [])

theorem parseKeyValueList_eq {input : List UInt8} {keyNum : ℕ}
    (h : keyNum ≤ kKeyValueVectorMaxSize) :
    parseKeyValueList input keyNum = some (parseKeyValueLoop input keyNum 0 []) :=
  if_neg h.not_gt

/-- One iteration of `append_key_value_list`. -/
def appendKeyValue (out : List UInt8) (kv : KeyValue) : List UInt8 :=
  let o := out.length
  let out := out ++ List.replicate (4 + kv.value.length) 0
  let out := writeLe out o kv.key
  let out := writeLe out (o + 2) (UInt16.ofNat kv.value.length)
  overwrite out (o + 4) kv.value

/-- `append_key_value_list`. -/
def appendKeyValueList (out : List UInt8) (kvs : List KeyValue) : List UInt8 :=
  kvs.foldl appendKeyValue out

/-- `encode_param_config_request`. -/
def encodeParamConfigRequest (kvs : List KeyValue) : List UInt8 :=
  let out := List.replicate 4 0
  let out := writeLe out 0 (UInt16.ofNat kvs.length)
  let out := writeLe out 2 (0 : UInt16)
  appendKeyValueList out kvs

/-- The loop of `encode_param_inquire_request`, from key `i` on. -/
def writeKeys (out : List UInt8) : ℕ → List UInt16 → List UInt8
  | _, [] => out
  | i, key :: keys => writeKeys (writeLe out (4 + 2 * i) key) (i + 1) keys

/-- `encode_param_inquire_request`. -/
def encodeParamInquireRequest (keys : List UInt16) : List UInt8 :=
  let out := List.replicate (4 + 2 * keys.length) 0
  let out := writeLe out 0 (UInt16.ofNat keys.length)
  let out := writeLe out 2 (0 : UInt16)
  writeKeys out 0 keys

/-! ## The state push -/

/-- `parse_info_push`: a count, two reserved bytes and the entries. -/
def parseInfoPush (data : List UInt8) : Option (Except ParseError (List KeyValue)) :=
  if data.length < 4 then some (.error .kTruncated)
  else parseKeyValueList (data.drop 4) (readLe UInt16 data 0).toNat

/-- A count of 16 bits stays below the limit of `parse_key_value_list`. -/
theorem parseInfoPush_ne_none (data : List UInt8) : parseInfoPush data ≠ none := by
  unfold parseInfoPush
  split
  · simp
  · have hcount := (readLe UInt16 data 0).toNat_lt
    rw [parseKeyValueList_eq (by rw [kKeyValueVectorMaxSize]; omega)]
    simp

end LivoxMid360
