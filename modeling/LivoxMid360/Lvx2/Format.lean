import LivoxMid360.Protocol
import Mathlib.Data.List.TakeWhile

/-!
# The lvx2 file format

An lvx2 file is a fixed header, one 63-byte record for each device, and a chain of
frames.  A frame is a 24-byte header, with its own offset, the offset of the next
frame and its index, followed by its packages; a package is a 27-byte header and
the packed samples of one data packet.

The byte strings are given here as `lvx2.cpp` lays them out: `encodeDeviceInfo`,
`encodeFileHeader` and `encodePackage` are what the writer stores, and
`decodeDeviceInfo` and `decodePackageHeader` what the reader fetches at its fixed
offsets.  Each decoder inverts its encoder.

`encodeFrames` is the meaning of the whole chain: the bytes of a list of frames,
each a list of packages, from a file offset and a frame index on.  It is the common
ground of the writer, which appends to it, and the reader, which walks it.
-/

namespace LivoxMid360

open LittleEndian

namespace Lvx2

/-! ## Constants -/

def kFileHeaderSize : ℕ := 29
def kDeviceInfoSize : ℕ := 63
def kFrameHeaderSize : ℕ := 24
def kPackageHeaderSize : ℕ := 27
def kMagic : UInt32 := 0xAC0EA767

/-- `"livox_tech"`, zero padded. -/
def kSignature : List UInt8 :=
  [0x6C, 0x69, 0x76, 0x6F, 0x78, 0x5F, 0x74, 0x65, 0x63, 0x68, 0, 0, 0, 0, 0, 0]

/-- The version bytes: major version 2. -/
def kVersion : List UInt8 := [2, 0, 0, 0]

@[simp] theorem kSignature_length : kSignature.length = 16 := rfl

@[simp] theorem kVersion_length : kVersion.length = 4 := rfl

def kTypeCartesian32 : UInt8 := 1
def kTypeCartesian16 : UInt8 := 2
def kClockJumpNs : UInt64 := 1000000000

end Lvx2

open Lvx2

/-! ## Errors -/

inductive Lvx2Error.Kind where
  | kIo
  | kInvalidArgument
  | kUnsupportedDataType
  | kBadFile
deriving DecidableEq, Repr

structure Lvx2Error where
  kind : Lvx2Error.Kind := .kIo
  errnoValue : Int32 := 0
  detail : String := ""
deriving DecidableEq, Repr

namespace Lvx2

def ioError (errno : Int32) (what : String) : Lvx2Error :=
  { kind := .kIo, errnoValue := errno, detail := what }

def badFile (what : String) : Lvx2Error :=
  { kind := .kBadFile, detail := what }

def unsupportedDataType (what : String) : Lvx2Error :=
  { kind := .kUnsupportedDataType, detail := what }

def invalidArgument (what : String) : Lvx2Error :=
  { kind := .kInvalidArgument, detail := what }

/-! ## Device records -/

/-- `put_fixed`: a string in `n` bytes, cut or zero padded. -/
def putFixed (s : List UInt8) (n : ℕ) : List UInt8 :=
  s.take n ++ List.replicate (n - s.length) 0

/-- `get_fixed`: the string up to the first zero byte, at most `n` bytes. -/
def getFixed (b : List UInt8) (offset n : ℕ) : List UInt8 :=
  (slice b offset n).takeWhile (· ≠ 0)

@[simp] theorem putFixed_length (s : List UInt8) (n : ℕ) : (putFixed s n).length = n := by
  simp only [putFixed, List.length_append, List.length_take, List.length_replicate]
  omega

end Lvx2

/-- One entry of the device-info block.  Strings are byte strings; the extrinsics
are kept as the bit patterns of their `float`s, which the code only copies. -/
structure Lvx2DeviceInfo where
  lidarSn : List UInt8 := []
  hubSn : List UInt8 := []
  lidarId : UInt32 := 0
  lidarType : UInt8 := 0
  deviceType : UInt8 := 9
  extrinsicEnable : Bool := false
  rollDeg : UInt32 := 0
  pitchDeg : UInt32 := 0
  yawDeg : UInt32 := 0
  xM : UInt32 := 0
  yM : UInt32 := 0
  zM : UInt32 := 0
deriving DecidableEq, Repr

namespace Lvx2

/-- The 63 bytes of a device record. -/
def encodeDeviceInfo (d : Lvx2DeviceInfo) : List UInt8 :=
  putFixed d.lidarSn 16 ++ (putFixed d.hubSn 16 ++ (encodeLe d.lidarId ++
    (encodeLe d.lidarType ++ (encodeLe d.deviceType ++
    (encodeLe (if d.extrinsicEnable then 1 else 0 : UInt8) ++
    (encodeLe d.rollDeg ++ (encodeLe d.pitchDeg ++ (encodeLe d.yawDeg ++
    (encodeLe d.xM ++ (encodeLe d.yM ++ encodeLe d.zM))))))))))

/-- The device record in 63 bytes. -/
def decodeDeviceInfo (d : List UInt8) : Lvx2DeviceInfo where
  lidarSn := getFixed d 0 16
  hubSn := getFixed d 16 16
  lidarId := readLe UInt32 d 32
  lidarType := readLe UInt8 d 36
  deviceType := readLe UInt8 d 37
  extrinsicEnable := readLe UInt8 d 38 ≠ 0
  rollDeg := readLe UInt32 d 39
  pitchDeg := readLe UInt32 d 43
  yawDeg := readLe UInt32 d 47
  xM := readLe UInt32 d 51
  yM := readLe UInt32 d 55
  zM := readLe UInt32 d 59

@[simp] theorem encodeDeviceInfo_length (d : Lvx2DeviceInfo) :
    (encodeDeviceInfo d).length = kDeviceInfoSize := by
  simp [encodeDeviceInfo, kDeviceInfoSize]

end Lvx2

/-- A device as it comes back from a file: the serials end at their first zero
byte, and after 16 bytes. -/
def Lvx2DeviceInfo.stored (d : Lvx2DeviceInfo) : Lvx2DeviceInfo :=
  { d with
    lidarSn := (d.lidarSn.take 16).takeWhile (· ≠ 0)
    hubSn := (d.hubSn.take 16).takeWhile (· ≠ 0) }

/-- The serials fit: at most 16 bytes, none of them zero. -/
structure Lvx2DeviceInfo.SerialsFit (d : Lvx2DeviceInfo) : Prop where
  lidarSn_length : d.lidarSn.length ≤ 16
  lidarSn_ne_zero : 0 ∉ d.lidarSn
  hubSn_length : d.hubSn.length ≤ 16
  hubSn_ne_zero : 0 ∉ d.hubSn

namespace Lvx2

/-- Behind a field of a record, a read is a read of the rest of the record. -/
theorem getFixed_append_of_le {pre b : List UInt8} {offset n : ℕ} (h : pre.length ≤ offset) :
    getFixed (pre ++ b) offset n = getFixed b (offset - pre.length) n := by
  rw [getFixed, getFixed, slice_append_of_le h]

theorem takeWhile_ne_zero_eq_self {s : List UInt8} (h : 0 ∉ s) : s.takeWhile (· ≠ 0) = s := by
  rw [List.takeWhile_eq_self_iff]
  intro b mem
  exact decide_eq_true (ne_of_mem_of_not_mem mem h)

theorem getFixed_putFixed (s rest : List UInt8) (n : ℕ) :
    getFixed (putFixed s n ++ rest) 0 n = (s.take n).takeWhile (· ≠ 0) := by
  have hslice : slice (putFixed s n ++ rest) 0 n = putFixed s n :=
    slice_append_zero (putFixed_length s n)
  rw [getFixed, hslice, putFixed]
  -- The padding adds nothing: it starts with a zero byte, if there is any.
  have hpad : ∀ k, (List.replicate k (0 : UInt8)).takeWhile (· ≠ 0) = [] := by
    intro k
    cases k with
    | zero => rfl
    | succ => rfl
  rw [List.takeWhile_append]
  split_ifs with hall
  · rw [hpad, List.append_nil, (List.takeWhile_prefix _).eq_of_length hall]
  · rfl

/-- **A device record reads back.** -/
theorem decodeDeviceInfo_encodeDeviceInfo (d : Lvx2DeviceInfo) :
    decodeDeviceInfo (encodeDeviceInfo d) = d.stored := by
  simp [decodeDeviceInfo, encodeDeviceInfo, getFixed_putFixed, getFixed_append_of_le,
    readLe_append_of_le, readLe_append_zero, readLe_encodeLe, Lvx2DeviceInfo.stored]

end Lvx2

/-- A device whose serials fit comes back unchanged. -/
theorem Lvx2DeviceInfo.SerialsFit.stored_eq {d : Lvx2DeviceInfo} (h : d.SerialsFit) :
    d.stored = d := by
  rw [Lvx2DeviceInfo.stored, List.take_of_length_le h.lidarSn_length,
    List.take_of_length_le h.hubSn_length, takeWhile_ne_zero_eq_self h.lidarSn_ne_zero,
    takeWhile_ne_zero_eq_self h.hubSn_ne_zero]

/-! ## Packages -/

/-- One package of a frame, on disk. -/
structure Lvx2Package where
  lidarId : UInt32 := 0
  lidarType : UInt8 := 0
  timestampType : UInt8 := 0
  timestampNs : UInt64 := 0
  udpCounter : UInt16 := 0
  dataType : DataType := .kCartesian32
  frameCounter : UInt8 := 0
  points : List UInt8 := []
deriving DecidableEq, Repr

/-- One package as read from a file, with the index of the frame that holds it. -/
structure Lvx2Packet extends Lvx2Package where
  frameIndex : UInt64 := 0
deriving DecidableEq, Repr

/-- `Lvx2Packet::to_data_packet_view`. -/
def Lvx2Package.toDataPacketView (p : Lvx2Package) : DataPacketView where
  header :=
    { version := 0
      length := UInt16.ofNat (kDataPacketHeaderSize + p.points.length)
      timeInterval := 0
      dotNum := UInt16.ofNat (p.points.length / sampleSize p.dataType)
      udpCnt := p.udpCounter
      frameCnt := p.frameCounter
      dataType := p.dataType
      timeType := ⟨p.timestampType⟩
      crc32 := 0
      timestampNs := p.timestampNs }
  data := p.points

namespace Lvx2

/-- The type byte of a package; the format has no other types. -/
def packageType : DataType → UInt8
  | .kCartesian32 => kTypeCartesian32
  | .kCartesian16 => kTypeCartesian16
  | _ => 0

variable (p : Lvx2Package)

/-- The 27 bytes of a package header; the last four are reserved. -/
def encodePackageHeader : List UInt8 :=
  encodeLe (0 : UInt8) ++ (encodeLe p.lidarId ++ (encodeLe p.lidarType ++
    (encodeLe p.timestampType ++ (encodeLe p.timestampNs ++ (encodeLe p.udpCounter ++
    (encodeLe (packageType p.dataType) ++ (encodeLe (UInt32.ofNat p.points.length) ++
    (encodeLe p.frameCounter ++ List.replicate 4 0))))))))

/-- A package: its header and its samples. -/
def encodePackage : List UInt8 :=
  encodePackageHeader p ++ p.points

/-- What the reader fetches from a package header. -/
structure PackageHeader where
  lidarId : UInt32
  lidarType : UInt8
  timestampType : UInt8
  timestampNs : UInt64
  udpCounter : UInt16
  type : UInt8
  length : UInt32
  frameCounter : UInt8
deriving DecidableEq, Repr

def decodePackageHeader (ph : List UInt8) : PackageHeader where
  lidarId := readLe UInt32 ph 1
  lidarType := readLe UInt8 ph 5
  timestampType := readLe UInt8 ph 6
  timestampNs := readLe UInt64 ph 7
  udpCounter := readLe UInt16 ph 15
  type := readLe UInt8 ph 17
  length := readLe UInt32 ph 18
  frameCounter := readLe UInt8 ph 22

@[simp] theorem encodePackageHeader_length :
    (encodePackageHeader p).length = kPackageHeaderSize := by
  simp [encodePackageHeader, kPackageHeaderSize]

@[simp] theorem encodePackage_length :
    (encodePackage p).length = kPackageHeaderSize + p.points.length := by
  simp [encodePackage]

/-- **A package header reads back.** -/
theorem decodePackageHeader_encodePackageHeader :
    decodePackageHeader (encodePackageHeader p) =
      { p with type := packageType p.dataType, length := UInt32.ofNat p.points.length } := by
  simp [decodePackageHeader, encodePackageHeader, readLe_append_of_le, readLe_append_zero]

end Lvx2

/-- A package the format can hold: Cartesian samples, a whole number of them, with
a size that fits its 32-bit field. -/
structure Lvx2Package.Valid (p : Lvx2Package) : Prop where
  type : p.dataType = .kCartesian32 ∨ p.dataType = .kCartesian16
  whole : p.points.length % sampleSize p.dataType = 0
  size : p.points.length < 2 ^ 32

namespace Lvx2

/-! ## Files -/

variable (devices : List Lvx2DeviceInfo)

/-- The file header and the device-info block. -/
def encodeFileHeader (frameDurationMs : UInt32) : List UInt8 :=
  kSignature ++ (kVersion ++ (encodeLe kMagic ++ (encodeLe frameDurationMs ++
    (encodeLe (UInt8.ofNat devices.length) ++ devices.flatMap encodeDeviceInfo))))

/-- The packages of one frame. -/
def encodeBody (packages : List Lvx2Package) : List UInt8 :=
  packages.flatMap encodePackage

/-- A frame header at a file offset, for a body of `size` bytes. -/
def encodeFrameHeader (offset frameIndex : UInt64) (size : ℕ) : List UInt8 :=
  encodeLe offset ++
    (encodeLe (offset + UInt64.ofNat (kFrameHeaderSize + size)) ++ encodeLe frameIndex)

/-- One frame at a file offset. -/
def encodeFrame (offset frameIndex : ℕ) (packages : List Lvx2Package) : List UInt8 :=
  encodeFrameHeader (UInt64.ofNat offset) (UInt64.ofNat frameIndex) (encodeBody packages).length ++
    encodeBody packages

/-- The size of a frame in the file. -/
def frameSize (packages : List Lvx2Package) : ℕ :=
  kFrameHeaderSize + (encodeBody packages).length

/-- A chain of frames, from a file offset and a frame index on. -/
def encodeFrames : ℕ → ℕ → List (List Lvx2Package) → List UInt8
  | _, _, [] => []
  | offset, frameIndex, packages :: frames =>
    encodeFrame offset frameIndex packages ++
      encodeFrames (offset + frameSize packages) (frameIndex + 1) frames

/-- A whole file. -/
def encodeFile (frameDurationMs : UInt32) (frames : List (List Lvx2Package)) : List UInt8 :=
  encodeFileHeader devices frameDurationMs ++
    encodeFrames (encodeFileHeader devices frameDurationMs).length 0 frames

@[simp] theorem encodeFileHeader_length (frameDurationMs : UInt32) :
    (encodeFileHeader devices frameDurationMs).length =
      kFileHeaderSize + kDeviceInfoSize * devices.length := by
  have hblock : (devices.flatMap encodeDeviceInfo).length = kDeviceInfoSize * devices.length := by
    rw [List.length_flatMap]
    simp [Nat.mul_comm]
  simp only [encodeFileHeader, List.length_append, hblock]
  simp [kFileHeaderSize]
  omega

@[simp] theorem encodeFrameHeader_length (offset frameIndex : UInt64) (size : ℕ) :
    (encodeFrameHeader offset frameIndex size).length = kFrameHeaderSize := by
  simp [encodeFrameHeader, kFrameHeaderSize]

@[simp] theorem encodeFrame_length (offset frameIndex : ℕ) (packages : List Lvx2Package) :
    (encodeFrame offset frameIndex packages).length = frameSize packages := by
  simp [encodeFrame, frameSize]

/-- A chain extended by one frame. -/
theorem encodeFrames_concat (offset frameIndex : ℕ) (frames : List (List Lvx2Package))
    (packages : List Lvx2Package) :
    encodeFrames offset frameIndex (frames ++ [packages]) =
      encodeFrames offset frameIndex frames ++
        encodeFrame (offset + (encodeFrames offset frameIndex frames).length)
          (frameIndex + frames.length) packages := by
  induction frames generalizing offset frameIndex with
  | nil => simp [encodeFrames]
  | cons first frames ih =>
    have hoffset : ∀ n, offset + (frameSize first + n) = offset + frameSize first + n :=
      fun n => (Nat.add_assoc ..).symm
    have hindex : frameIndex + (frames.length + 1) = frameIndex + 1 + frames.length := by
      omega
    simp only [List.cons_append, encodeFrames, ih, List.append_assoc, List.length_append,
      encodeFrame_length, List.length_cons, hoffset, hindex]

/-- A file extended by one frame, at its end. -/
theorem encodeFile_concat (frameDurationMs : UInt32) (frames : List (List Lvx2Package))
    (packages : List Lvx2Package) :
    encodeFile devices frameDurationMs (frames ++ [packages]) =
      encodeFile devices frameDurationMs frames ++
        encodeFrame (encodeFile devices frameDurationMs frames).length frames.length packages := by
  simp only [encodeFile, encodeFrames_concat, List.append_assoc, List.length_append, Nat.zero_add]

end Lvx2

end LivoxMid360
