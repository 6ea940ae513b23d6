import LivoxMid360.Config
import LivoxMid360.Protocol.Requests

/-!
# Firmware log pushes

The LiDAR pushes its log as files, a chunk in each `0x0300` frame: sixteen bytes of header
and the bytes of the chunk.  A push that asks for it is acknowledged with the type, the file
and the number of the chunk.

`parse_firmware_log_push` takes a payload whose length is the one the header gives, and no
other; what `encode_firmware_log_push` writes is read back
(`parseFirmwareLogPush_encode`).
-/

namespace LivoxMid360

open LittleEndian

/-- `CmdId::kPushLog`. -/
def kPushLog : UInt16 := 0x0300

def kFirmwareLogPushHeaderSize : ℕ := 16
def kFirmwareLogPushDataMaxSize : ℕ := kCommandDataMaxSize - kFirmwareLogPushHeaderSize
def kFirmwareLogPushAckSize : ℕ := 7

/-- Which log, as carried on the wire; unknown values pass through. -/
structure FirmwareLogType where
  raw : UInt8
deriving DecidableEq, Repr

namespace FirmwareLogType

def kRealTime : FirmwareLogType := ⟨0⟩

end FirmwareLogType

structure FirmwareLogFlags where
  raw : UInt8 := 0
deriving DecidableEq, Repr

namespace FirmwareLogFlags

def ackRequested (f : FirmwareLogFlags) : Bool := f.raw &&& 0x01 ≠ 0
def fileBegin (f : FirmwareLogFlags) : Bool := f.raw &&& 0x02 ≠ 0
def fileEnd (f : FirmwareLogFlags) : Bool := f.raw &&& 0x04 ≠ 0

end FirmwareLogFlags

structure FirmwareLogPushHeader where
  logType : FirmwareLogType := .kRealTime
  fileIndex : UInt8 := 0
  fileNum : UInt8 := 0
  flags : FirmwareLogFlags := {}
  timestamp : UInt32 := 0
  rsvd : UInt16 := 0
  transIndex : UInt32 := 0
  dataLength : UInt16 := 0
deriving DecidableEq, Repr

structure FirmwareLogPushView where
  header : FirmwareLogPushHeader
  data : List UInt8
deriving DecidableEq, Repr

structure FirmwareLogPushAck where
  retCode : RetCode := .kSuccess
  logType : FirmwareLogType := .kRealTime
  fileIndex : UInt8 := 0
  transIndex : UInt32 := 0
deriving DecidableEq, Repr

/-! ## The codecs -/

/-- The header fields of a payload of at least sixteen bytes. -/
def readFirmwareLogPushHeader (data : List UInt8) : FirmwareLogPushHeader where
  logType := ⟨readLe UInt8 data 0⟩
  fileIndex := readLe UInt8 data 1
  fileNum := readLe UInt8 data 2
  flags := ⟨readLe UInt8 data 3⟩
  timestamp := readLe UInt32 data 4
  rsvd := readLe UInt16 data 8
  transIndex := readLe UInt32 data 10
  dataLength := readLe UInt16 data 14

def parseFirmwareLogPush (data : List UInt8) : Except ParseError FirmwareLogPushView :=
  if data.length < kFirmwareLogPushHeaderSize then .error .kTooShort
  else
    let h := readFirmwareLogPushHeader data
    let present := data.length - kFirmwareLogPushHeaderSize
    if h.dataLength.toNat > present then .error .kTruncated
    -- nothing may follow the data
    else if h.dataLength.toNat < present then .error .kLengthMismatch
    else .ok ⟨h, slice data kFirmwareLogPushHeaderSize h.dataLength.toNat⟩

def encodeFirmwareLogPush (header : FirmwareLogPushHeader) (data : List UInt8) :
    Except EncodeError (List UInt8) :=
  if data.length > kFirmwareLogPushDataMaxSize then .error .kDataTooLarge
  else
    let out : List UInt8 := List.replicate (kFirmwareLogPushHeaderSize + data.length) 0
    let out := writeLe out 0 header.logType.raw
    let out := writeLe out 1 header.fileIndex
    let out := writeLe out 2 header.fileNum
    let out := writeLe out 3 header.flags.raw
    let out := writeLe out 4 header.timestamp
    let out := writeLe out 8 header.rsvd
    let out := writeLe out 10 header.transIndex
    let out := writeLe out 14 (UInt16.ofNat data.length)
    .ok (overwrite out kFirmwareLogPushHeaderSize data)

def encodeFirmwareLogPushAck (ack : FirmwareLogPushAck) : List UInt8 :=
  let out : List UInt8 := List.replicate kFirmwareLogPushAckSize 0
  let out := writeLe out 0 ack.retCode.raw
  let out := writeLe out 1 ack.logType.raw
  let out := writeLe out 2 ack.fileIndex
  writeLe out 3 ack.transIndex

/-! ## Reading back -/

/-- The header on the wire. -/
def FirmwareLogPushHeader.bytes (h : FirmwareLogPushHeader) (n : UInt16) : List UInt8 :=
  encodeLe h.logType.raw ++ (encodeLe h.fileIndex ++ (encodeLe h.fileNum ++
    (encodeLe h.flags.raw ++ (encodeLe h.timestamp ++ (encodeLe h.rsvd ++
      (encodeLe h.transIndex ++ encodeLe n))))))

@[simp] theorem FirmwareLogPushHeader.bytes_length (h : FirmwareLogPushHeader) (n : UInt16) :
    (h.bytes n).length = 16 := by
  simp [FirmwareLogPushHeader.bytes]

variable {data : List UInt8}

theorem encodeFirmwareLogPush_eq (header : FirmwareLogPushHeader)
    (hsize : data.length ≤ kFirmwareLogPushDataMaxSize) :
    encodeFirmwareLogPush header data = .ok (header.bytes (UInt16.ofNat data.length) ++ data) := by
  have hstart : writeLe (List.replicate (kFirmwareLogPushHeaderSize + data.length) 0) 0
      header.logType.raw = encodeLe header.logType.raw ++
        (List.replicate (kFirmwareLogPushHeaderSize + data.length) 0).drop 1 :=
    writeLe_append List.length_nil _ _
  have hnothing : 12 + data.length - 4 - 2 - 4 - 2 - data.length = 0 := by omega
  rw [encodeFirmwareLogPush, if_neg hsize.not_gt]
  dsimp only
  -- each field is written behind the one before it, over zeros
  rw [hstart, writeLe_append (by simp), writeLe_append (by simp), writeLe_append (by simp),
    writeLe_append (by simp), writeLe_append (by simp), writeLe_append (by simp),
    writeLe_append (by simp), overwrite_append (by simp [kFirmwareLogPushHeaderSize])]
  simp [FirmwareLogPushHeader.bytes, kFirmwareLogPushHeaderSize, hnothing]

theorem parseFirmwareLogPush_bytes (header : FirmwareLogPushHeader)
    (hsize : data.length ≤ kFirmwareLogPushDataMaxSize) :
    parseFirmwareLogPush (header.bytes (UInt16.ofNat data.length) ++ data) =
      .ok ⟨{ header with dataLength := UInt16.ofNat data.length }, data⟩ := by
  have hlength : (UInt16.ofNat data.length).toNat = data.length := by
    apply UInt16.toNat_ofNat_of_lt
    simp only [kFirmwareLogPushDataMaxSize, kCommandDataMaxSize, kCommandFrameMaxSize,
      kCommandHeaderSize, kFirmwareLogPushHeaderSize] at hsize
    rw [UInt16.size]
    omega
  have hheader : readFirmwareLogPushHeader (header.bytes (UInt16.ofNat data.length) ++ data) =
      { header with dataLength := UInt16.ofNat data.length } := by
    simp only [readFirmwareLogPushHeader, FirmwareLogPushHeader.bytes, List.append_assoc]
    simp [readLe_append_of_le, readLe_append_zero]
  have hslice : slice (header.bytes (UInt16.ofNat data.length) ++ data) 16 data.length = data := by
    rw [slice_append (by simp)]
    simp
  unfold parseFirmwareLogPush
  rw [hheader]
  simp [kFirmwareLogPushHeaderSize, hlength, hslice]

/-- **A push that was encoded is read back**, with the length of its data. -/
theorem parseFirmwareLogPush_encode {header : FirmwareLogPushHeader} {out : List UInt8}
    (h : encodeFirmwareLogPush header data = .ok out) :
    parseFirmwareLogPush out =
      .ok ⟨{ header with dataLength := UInt16.ofNat data.length }, data⟩ := by
  by_cases hsize : data.length ≤ kFirmwareLogPushDataMaxSize
  · rw [encodeFirmwareLogPush_eq header hsize] at h
    cases h
    exact parseFirmwareLogPush_bytes header hsize
  · rw [encodeFirmwareLogPush, if_pos (Nat.not_le.mp hsize)] at h
    exact absurd h (by simp)

end LivoxMid360
