import LivoxMid360.PythonEncode

/-!
# Data packets from Python to C++

`DataPacket.encode` and `pack_samples` of `tools/livox_mid360_proto.py`, with which the
simulator makes its point clouds and IMU samples, against `parse_data_packet` and the
`decode_*` functions of the library.

A number of a sample is an integer, or a float that is given by the bits of its single
precision value: rounding a Python float to it is not part of the model.

The two sides meet at `dataWire`, the fields of a packet one behind the other, and at the
`bytes` of a sample.  `packet_read_back` puts them together.
-/

namespace LivoxMid360

open LittleEndian

namespace Python

/-! ## Packing -/

/-- A number of a sample. -/
inductive Number where
  | int (n : ℤ)
  | float (bits : UInt32)

/-- The format characters of `SAMPLE_FMT`. -/
inductive Field where
  | i | h | I | H | B | f

def Field.pack : Field → Number → Except Exn (List UInt8)
  | .i, .int n => packSigned 4 n
  | .h, .int n => packSigned 2 n
  | .I, .int n => packWord 4 n
  | .H, .int n => packWord 2 n
  | .B, .int n => packWord 1 n
  | .f, .float bits => .ok (encodeLe bits)
  | _, _ => .error .structError

/-- `struct.pack` of one sample. -/
def packSample : List Field → List Number → Except Exn (List UInt8)
  | [], [] => .ok []
  | c :: cs, x :: xs =>
    match c.pack x with
    | .error e => .error e
    | .ok b =>
      match packSample cs xs with
      | .error e => .error e
      | .ok bs => .ok (b ++ bs)
  | _, _ => .error .structError

/-- `SAMPLE_FMT`, a dictionary. -/
def SAMPLE_FMT : ℕ → Option (List Field)
  | 0 => some [.f, .f, .f, .f, .f, .f]
  | 1 => some [.i, .i, .i, .B, .B]
  | 2 => some [.h, .h, .h, .B, .B]
  | 3 => some [.I, .H, .H, .B, .B]
  | _ => none

/-- An exception of `pack_samples`. -/
inductive SampleExn where
  | keyError
  | exn (x : Exn)

def packAll (fmt : List Field) : List (List Number) → Except Exn (List UInt8)
  | [] => .ok []
  | s :: samples =>
    match packSample fmt s with
    | .error e => .error e
    | .ok b =>
      match packAll fmt samples with
      | .error e => .error e
      | .ok bs => .ok (b ++ bs)

/-- `pack_samples`. -/
def packSamples (dataType : ℕ) (samples : List (List Number)) : Except SampleExn (List UInt8) :=
  match SAMPLE_FMT dataType with
  | none => .error .keyError
  | some fmt =>
    match packAll fmt samples with
    | .error e => .error (.exn e)
    | .ok bs => .ok bs

/-- `DataPacket.encode`. -/
def DataPacket.encode (p : DataPacket) (withCrc : Bool) : Except Exn (List UInt8) :=
  let length := DATA_HEADER_SIZE + p.data.length
  match pack [.Q] [.int p.timestampNs] with
  | .error x => .error x
  | .ok ts =>
    let c32 := if withCrc then crc32 (ts ++ p.data) else 0
    match pack [.B, .H, .H, .H, .H, .B, .B, .B, .s 12, .I]
      [.int p.version, .int length, .int p.timeInterval, .int p.dotNum, .int p.udpCnt,
        .int p.frameCnt, .int p.dataType, .int p.timeType, .bytes p.reserved, .int c32] with
    | .error x => .error x
    | .ok head => .ok (head ++ ts ++ p.data)

/-! ## The wire form of a packet -/

variable (h : DataPacketHeader)

/-- The fields of a packet, one behind the other. -/
def dataWire (data : List UInt8) : List UInt8 :=
  encodeLe h.version ++ (encodeLe h.length ++ (encodeLe h.timeInterval ++ (encodeLe h.dotNum ++
    (encodeLe h.udpCnt ++ (encodeLe h.frameCnt ++ (encodeLe h.dataType.raw ++
      (encodeLe h.timeType.raw ++ (h.reserved ++ (encodeLe h.crc32 ++
        (encodeLe h.timestampNs ++ data))))))))))

/-- The packet that has the fields of a header. -/
def DataPacket.ofHeader (data : List UInt8) : DataPacket where
  timeInterval := h.timeInterval.toNat
  dotNum := h.dotNum.toNat
  udpCnt := h.udpCnt.toNat
  frameCnt := h.frameCnt.toNat
  dataType := h.dataType.raw.toNat
  timeType := h.timeType.raw.toNat
  timestampNs := h.timestampNs.toNat
  data := data
  reserved := h.reserved
  version := h.version.toNat

/-- The header with the two fields that the encoder computes. -/
def sealed (data : List UInt8) (withCrc : Bool) : DataPacketHeader :=
  { h with
    length := UInt16.ofNat (kDataPacketHeaderSize + data.length)
    crc32 := if withCrc then Crc.crc32 (encodeLe h.timestampNs ++ data) else 0 }

theorem DataPacket.encode_ofHeader {h : DataPacketHeader} {data : List UInt8} (withCrc : Bool)
    (hreserved : h.reserved.length = 12)
    (hfits : kDataPacketHeaderSize + data.length < 0x10000) :
    (DataPacket.ofHeader h data).encode withCrc = .ok (dataWire (sealed h data withCrc) data) := by
  have hts : pack [.Q] [.int h.timestampNs.toNat] = .ok (encodeLe h.timestampNs ++ []) :=
    pack_cons (pack_Q _) pack_nil
  rw [List.append_nil] at hts
  have hlength : Code.pack .H (.int (DATA_HEADER_SIZE + data.length : ℕ)) =
      .ok (encodeLe (UInt16.ofNat (kDataPacketHeaderSize + data.length))) := by
    have hword := pack_H (UInt16.ofNat (kDataPacketHeaderSize + data.length))
    rwa [UInt16.toNat_ofNat_of_lt' hfits] at hword
  have hcrc : Code.pack .I (.int ((if withCrc then crc32 (encodeLe h.timestampNs ++ data)
      else 0 : ℕ))) = .ok (encodeLe (sealed h data withCrc).crc32) := by
    cases withCrc with
    | false => exact pack_I 0
    | true =>
      rw [if_pos rfl, crc32_eq]
      exact pack_I _
  have hhead := pack_cons (pack_B h.version) (pack_cons hlength (pack_cons
    (pack_H h.timeInterval) (pack_cons (pack_H h.dotNum) (pack_cons (pack_H h.udpCnt) (pack_cons
      (pack_B h.frameCnt) (pack_cons (pack_B h.dataType.raw) (pack_cons (pack_B h.timeType.raw)
        (pack_cons (pack_s hreserved) (pack_cons hcrc pack_nil)))))))))
  simp only [DataPacket.encode, DataPacket.ofHeader, hts, hhead]
  simp [dataWire, sealed]

/-! ## Reading the wire form -/

section Wire

variable {h : DataPacketHeader} {data : List UInt8}

theorem ofRaw_raw (dt : DataType) : DataType.ofRaw dt.raw = dt := by
  cases dt <;> rfl

theorem dataWire_length (data : List UInt8) (hreserved : h.reserved.length = 12) :
    (dataWire h data).length = kDataPacketHeaderSize + data.length := by
  simp only [dataWire, List.length_append, encodeLe_length, size_uint8, size_uint16, size_uint32,
    size_uint64, hreserved, kDataPacketHeaderSize]
  omega

/-- The header is read back. -/
theorem readDataPacketHeader_dataWire (data : List UInt8) (hreserved : h.reserved.length = 12) :
    readDataPacketHeader (dataWire h data) = h := by
  have hslice : slice (h.reserved ++ (encodeLe h.crc32 ++ (encodeLe h.timestampNs ++ data))) 0 12 =
      h.reserved := slice_append_zero hreserved
  simp only [readDataPacketHeader, dataWire]
  simp [readLe_append_of_le, readLe_append_zero, slice_append_of_le, hreserved, hslice, ofRaw_raw]

/-- The CRC is over what stands from byte 28 on. -/
theorem slice_dataWire (hreserved : h.reserved.length = 12) :
    slice (dataWire h data) 28 (8 + data.length) = encodeLe h.timestampNs ++ data := by
  have htail : slice (encodeLe h.timestampNs ++ data) 0 (8 + data.length) =
      encodeLe h.timestampNs ++ data := by
    rw [slice, List.drop_zero, List.take_of_length_le (by simp)]
  rw [dataWire]
  simp [slice_append_of_le, hreserved, htail]

/-- A packet whose header describes it is accepted.  It is so with a CRC that comes out as
zero too: a zero is not checked. -/
theorem parseDataPacket_dataWire {verifyCrc : Bool} (hreserved : h.reserved.length = 12)
    (hversion : h.version = kProtocolVersion)
    (hlength : h.length.toNat = kDataPacketHeaderSize + data.length)
    (hdots : data.length = h.dotNum.toNat * sampleSize h.dataType)
    (hcrc : h.crc32 = 0 ∨ h.crc32 = Crc.crc32 (encodeLe h.timestampNs ++ data)) :
    parseDataPacket (dataWire h data) verifyCrc = .ok ⟨h, data⟩ := by
  have hheader := readDataPacketHeader_dataWire data hreserved
  have htotal := dataWire_length data hreserved
  have hraw : readLe UInt8 (dataWire h data) 10 = h.dataType.raw := by
    rw [dataWire]
    simp [readLe_append_of_le, readLe_append_zero]
  have hdata : slice (dataWire h data) kDataPacketHeaderSize data.length = data := by
    have htail : slice data 0 data.length = data := by
      rw [slice, List.drop_zero, List.take_length]
    rw [dataWire]
    simp [kDataPacketHeaderSize, slice_append_of_le, hreserved, htail]
  apply parseDataPacket_eq_ok_iff.mpr
  exact {
    header_fits := by rw [htotal]; omega
    header_eq := hheader.symm
    version := hversion
    length_ge := by dsimp only; omega
    length_fits := by rw [htotal]; exact hlength.le
    type_known := by rw [hraw]; cases h.dataType <;> decide
    data_eq := by dsimp only; rw [hlength, Nat.add_sub_cancel_left, hdata]
    dot_num := hdots
    crc32 := fun _ hnonzero => by
      dsimp only at hnonzero ⊢
      rw [slice_dataWire hreserved, hcrc.resolve_left hnonzero] }

end Wire

/-! ## Samples -/

/-- A signed number packs to its two's complement. -/
theorem packSigned_toInt {w size : ℕ} (b : BitVec w) (hw : 256 ^ size = 2 ^ w) :
    packSigned size b.toInt = .ok (leBytes size b.toNat) := by
  have hlt : b.toNat < 2 ^ w := b.isLt
  have hbound : -(2 ^ w : ℕ) ≤ 2 * b.toInt ∧ 2 * b.toInt < (2 ^ w : ℕ) :=
    ⟨by exact_mod_cast BitVec.le_two_mul_toInt, by exact_mod_cast BitVec.two_mul_toInt_lt⟩
  have hword : (b.toInt % (2 ^ w : ℕ)).toNat = b.toNat := by
    rw [BitVec.toInt_eq_toNat_cond]
    split_ifs with hsmall
    · rw [Int.emod_eq_of_lt (by omega) (by omega), Int.toNat_natCast]
    · rw [Int.sub_emod_right, Int.emod_eq_of_lt (by omega) (by omega), Int.toNat_natCast]
  rw [packSigned, hw, if_pos hbound, hword]

theorem pack_i (x : Int32) : Field.pack .i (.int x.toInt) = .ok (encodeLe x.toUInt32) :=
  packSigned_toInt x.toBitVec rfl

theorem pack_h (x : Int16) : Field.pack .h (.int x.toInt) = .ok (encodeLe x.toUInt16) :=
  packSigned_toInt x.toBitVec rfl

theorem packSample_cons {c : Field} {x : Number} {cs : List Field} {xs : List Number}
    {b bs : List UInt8} (hfield : c.pack x = .ok b) (hrest : packSample cs xs = .ok bs) :
    packSample (c :: cs) (x :: xs) = .ok (b ++ bs) := by
  rw [packSample, hfield, hrest]

theorem packSample_nil : packSample [] [] = .ok [] := rfl

/-- The single precision bits of an IMU sample. -/
structure ImuBits where
  gyroX : UInt32
  gyroY : UInt32
  gyroZ : UInt32
  accX : UInt32
  accY : UInt32
  accZ : UInt32

def ImuBits.sample (s : ImuBits) : ImuSample :=
  ⟨.ofBits s.gyroX, .ofBits s.gyroY, .ofBits s.gyroZ, .ofBits s.accX, .ofBits s.accY,
    .ofBits s.accZ⟩

/-- The samples of one packet, by their data type. -/
inductive Samples where
  | imu (samples : List ImuBits)
  | cartesian32 (samples : List CartesianPoint32)
  | cartesian16 (samples : List CartesianPoint16)
  | spherical (samples : List SphericalPoint)

namespace Samples

def dataType : Samples → DataType
  | imu _ => .kImu
  | cartesian32 _ => .kCartesian32
  | cartesian16 _ => .kCartesian16
  | spherical _ => .kSpherical

def count : Samples → ℕ
  | imu samples => samples.length
  | cartesian32 samples => samples.length
  | cartesian16 samples => samples.length
  | spherical samples => samples.length

/-- The tuples that Python packs. -/
def tuples : Samples → List (List Number)
  | imu samples => samples.map fun s =>
    [.float s.gyroX, .float s.gyroY, .float s.gyroZ, .float s.accX, .float s.accY, .float s.accZ]
  | cartesian32 samples => samples.map fun p =>
    [.int p.xMm.toInt, .int p.yMm.toInt, .int p.zMm.toInt, .int p.reflectivity.toNat,
      .int p.tag.toNat]
  | cartesian16 samples => samples.map fun p =>
    [.int p.xCm.toInt, .int p.yCm.toInt, .int p.zCm.toInt, .int p.reflectivity.toNat,
      .int p.tag.toNat]
  | spherical samples => samples.map fun p =>
    [.int p.depthMm.toNat, .int p.thetaCentideg.toNat, .int p.phiCentideg.toNat,
      .int p.reflectivity.toNat, .int p.tag.toNat]

/-- What C++ decodes, from the first sample to the last. -/
def ReadFrom (v : DataPacketView) : Samples → Prop
  | imu samples => (List.range samples.length).map (decodeImu v) = samples.map ImuBits.sample
  | cartesian32 samples => (List.range samples.length).map (decodeCartesian32 v) = samples
  | cartesian16 samples => (List.range samples.length).map (decodeCartesian16 v) = samples
  | spherical samples => (List.range samples.length).map (decodeSpherical v) = samples

end Samples

/-! ## The bytes of a sample -/

def imuBytes (s : ImuBits) : List UInt8 :=
  encodeLe s.gyroX ++ (encodeLe s.gyroY ++ (encodeLe s.gyroZ ++ (encodeLe s.accX ++
    (encodeLe s.accY ++ (encodeLe s.accZ ++ [])))))

def cartesian32Bytes (p : CartesianPoint32) : List UInt8 :=
  encodeLe p.xMm.toUInt32 ++ (encodeLe p.yMm.toUInt32 ++ (encodeLe p.zMm.toUInt32 ++
    (encodeLe p.reflectivity ++ (encodeLe p.tag ++ []))))

def cartesian16Bytes (p : CartesianPoint16) : List UInt8 :=
  encodeLe p.xCm.toUInt16 ++ (encodeLe p.yCm.toUInt16 ++ (encodeLe p.zCm.toUInt16 ++
    (encodeLe p.reflectivity ++ (encodeLe p.tag ++ []))))

def sphericalBytes (p : SphericalPoint) : List UInt8 :=
  encodeLe p.depthMm ++ (encodeLe p.thetaCentideg ++ (encodeLe p.phiCentideg ++
    (encodeLe p.reflectivity ++ (encodeLe p.tag ++ []))))

/-- The data of a packet. -/
def Samples.bytes : Samples → List UInt8
  | imu samples => samples.flatMap imuBytes
  | cartesian32 samples => samples.flatMap cartesian32Bytes
  | cartesian16 samples => samples.flatMap cartesian16Bytes
  | spherical samples => samples.flatMap sphericalBytes

/-- Samples that pack one by one pack together. -/
theorem packAll_eq {σ : Type} {fmt : List Field} {tuple : σ → List Number} {bytes : σ → List UInt8}
    (h : ∀ s, packSample fmt (tuple s) = .ok (bytes s)) (samples : List σ) :
    packAll fmt (samples.map tuple) = .ok (samples.flatMap bytes) := by
  induction samples with
  | nil => rfl
  | cons s samples ih => rw [List.map_cons, packAll, h s, ih, List.flatMap_cons]

theorem packSamples_eq_ok {dataType : ℕ} {fmt : List Field} {tuples : List (List Number)}
    {bs : List UInt8} (hfmt : SAMPLE_FMT dataType = some fmt) (hall : packAll fmt tuples = .ok bs) :
    packSamples dataType tuples = .ok bs := by
  rw [packSamples, hfmt]
  simp only [hall]

/-- Python packs every list of samples. -/
theorem packSamples_tuples (s : Samples) :
    packSamples s.dataType.raw.toNat s.tuples = .ok s.bytes := by
  have hword {α : Type} [LeWord α] (a : α) : packWord (LeWord.size α) (LeWord.toNat a) = _ :=
    packWord_toNat a
  cases s with
  | imu samples =>
    refine packSamples_eq_ok rfl (packAll_eq (fun s => ?_) samples)
    exact packSample_cons rfl (packSample_cons rfl (packSample_cons rfl (packSample_cons rfl
      (packSample_cons rfl (packSample_cons rfl packSample_nil)))))
  | cartesian32 samples =>
    refine packSamples_eq_ok rfl (packAll_eq (fun p => ?_) samples)
    exact packSample_cons (pack_i _) (packSample_cons (pack_i _) (packSample_cons (pack_i _)
      (packSample_cons (hword p.reflectivity) (packSample_cons (hword p.tag) packSample_nil))))
  | cartesian16 samples =>
    refine packSamples_eq_ok rfl (packAll_eq (fun p => ?_) samples)
    exact packSample_cons (pack_h _) (packSample_cons (pack_h _) (packSample_cons (pack_h _)
      (packSample_cons (hword p.reflectivity) (packSample_cons (hword p.tag) packSample_nil))))
  | spherical samples =>
    refine packSamples_eq_ok rfl (packAll_eq (fun p => ?_) samples)
    exact packSample_cons (hword p.depthMm) (packSample_cons (hword p.thetaCentideg)
      (packSample_cons (hword p.phiCentideg) (packSample_cons (hword p.reflectivity)
        (packSample_cons (hword p.tag) packSample_nil))))

theorem imuBytes_length (s : ImuBits) : (imuBytes s).length = 24 := by
  simp [imuBytes]

theorem cartesian32Bytes_length (p : CartesianPoint32) : (cartesian32Bytes p).length = 14 := by
  simp [cartesian32Bytes]

theorem cartesian16Bytes_length (p : CartesianPoint16) : (cartesian16Bytes p).length = 8 := by
  simp [cartesian16Bytes]

theorem sphericalBytes_length (p : SphericalPoint) : (sphericalBytes p).length = 10 := by
  simp [sphericalBytes]

theorem Samples.bytes_length (s : Samples) : s.bytes.length = s.count * sampleSize s.dataType := by
  have hblock {σ : Type} {f : σ → List UInt8} {k : ℕ} (hf : ∀ a, (f a).length = k)
      (xs : List σ) : (xs.flatMap f).length = xs.length * k := by
    simp [List.length_flatMap, hf]
  cases s with
  | imu samples => exact hblock imuBytes_length samples
  | cartesian32 samples => exact hblock cartesian32Bytes_length samples
  | cartesian16 samples => exact hblock cartesian16Bytes_length samples
  | spherical samples => exact hblock sphericalBytes_length samples

/-! ## Decoding -/

/-- Decoding all records of a block. -/
theorem map_range_eq {τ : Type} {decode : ℕ → τ} {values : List τ} {n : ℕ}
    (hlength : values.length = n) (h : ∀ i (hi : i < values.length), decode i = values[i]) :
    (List.range n).map decode = values := by
  subst hlength
  refine List.ext_getElem (by simp) fun i _ hi => ?_
  rw [List.getElem_map, List.getElem_range, h i hi]

variable {i : ℕ}

theorem decodeImu_flatMap {samples : List ImuBits} (hi : i < samples.length) :
    decodeImu ⟨h, samples.flatMap imuBytes⟩ i = samples[i].sample := by
  simp (disch := decide) only [decodeImu, readLe_flatMap_first imuBytes_length hi,
    readLe_flatMap imuBytes_length hi]
  simp [imuBytes, ImuBits.sample, readLe_append_of_le, readLe_append_zero, readLe_encodeLe]

theorem decodeCartesian32_flatMap {samples : List CartesianPoint32} (hi : i < samples.length) :
    decodeCartesian32 ⟨h, samples.flatMap cartesian32Bytes⟩ i = samples[i] := by
  simp (disch := decide) only [decodeCartesian32, readLe_flatMap_first cartesian32Bytes_length hi,
    readLe_flatMap cartesian32Bytes_length hi]
  simp [cartesian32Bytes, readLe_append_of_le, readLe_append_zero, readLe_encodeLe]

theorem decodeCartesian16_flatMap {samples : List CartesianPoint16} (hi : i < samples.length) :
    decodeCartesian16 ⟨h, samples.flatMap cartesian16Bytes⟩ i = samples[i] := by
  simp (disch := decide) only [decodeCartesian16, readLe_flatMap_first cartesian16Bytes_length hi,
    readLe_flatMap cartesian16Bytes_length hi]
  simp [cartesian16Bytes, readLe_append_of_le, readLe_append_zero, readLe_encodeLe]

theorem decodeSpherical_flatMap {samples : List SphericalPoint} (hi : i < samples.length) :
    decodeSpherical ⟨h, samples.flatMap sphericalBytes⟩ i = samples[i] := by
  simp (disch := decide) only [decodeSpherical, readLe_flatMap_first sphericalBytes_length hi,
    readLe_flatMap sphericalBytes_length hi]
  simp [sphericalBytes, readLe_append_of_le, readLe_append_zero, readLe_encodeLe]

/-- C++ decodes the data of a packet to the samples. -/
theorem Samples.readFrom_bytes (s : Samples) : s.ReadFrom ⟨h, s.bytes⟩ := by
  cases s with
  | imu =>
    refine map_range_eq (List.length_map _) fun i hi => ?_
    rw [List.length_map] at hi
    rw [List.getElem_map]
    exact decodeImu_flatMap h hi
  | cartesian32 => exact map_range_eq rfl fun i hi => decodeCartesian32_flatMap h hi
  | cartesian16 => exact map_range_eq rfl fun i hi => decodeCartesian16_flatMap h hi
  | spherical => exact map_range_eq rfl fun i hi => decodeSpherical_flatMap h hi

/-! ## From Python to C++ -/

/-- **What Python sends is what C++ decodes.**  Whatever the samples of a packet are and
whatever stands in its header: `pack_samples` and `encode` succeed if the length fits its
field, with the CRC or without one.  `parse_data_packet` accepts the packet, whether it
checks the CRC or not, and returns the header as it was, with the length and the CRC filled
in.  The decoder of the data type returns the samples, in their order. -/
theorem packet_read_back (h : DataPacketHeader) (s : Samples) (withCrc verifyCrc : Bool)
    (hreserved : h.reserved.length = 12) (hversion : h.version = 0)
    (htype : h.dataType = s.dataType) (hdots : h.dotNum.toNat = s.count)
    (hfits : kDataPacketHeaderSize + s.count * sampleSize s.dataType < 0x10000) :
    ∃ data packet v,
      packSamples h.dataType.raw.toNat s.tuples = .ok data ∧
      (DataPacket.ofHeader h data).encode withCrc = .ok packet ∧
      parseDataPacket packet verifyCrc = .ok v ∧
      v.header = sealed h data withCrc ∧
      s.ReadFrom v := by
  have hlength := s.bytes_length
  refine ⟨s.bytes, _, ⟨sealed h s.bytes withCrc, s.bytes⟩, ?_,
    DataPacket.encode_ofHeader withCrc hreserved (by omega), ?_, rfl, s.readFrom_bytes _⟩
  · rw [htype]
    exact packSamples_tuples s
  · refine parseDataPacket_dataWire hreserved hversion ?_ ?_ ?_
    · exact UInt16.toNat_ofNat_of_lt' (by rw [UInt16.size]; omega)
    · show s.bytes.length = h.dotNum.toNat * sampleSize h.dataType
      rw [hlength, hdots, htype]
    · cases withCrc with
      | false => exact .inl rfl
      | true => exact .inr rfl

/-- A packet of two points, one of them at the ends of its ranges. -/
def twoPoints : Samples :=
  .cartesian32 [⟨-2147483648, 2147483647, -1, 255, 0⟩, ⟨1, 2, 3, 4, 5⟩]

theorem packet_read_back_two_points :
    ∃ data packet v,
      packSamples 1 twoPoints.tuples = .ok data ∧
      (DataPacket.ofHeader { dotNum := 2 } data).encode true = .ok packet ∧
      parseDataPacket packet true = .ok v ∧
      v.header = sealed { dotNum := 2 } data true ∧
      twoPoints.ReadFrom v :=
  packet_read_back { dotNum := 2 } twoPoints true true rfl rfl rfl rfl (by decide)

end Python

end LivoxMid360
