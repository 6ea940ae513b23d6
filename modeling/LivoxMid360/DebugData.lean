import LivoxMid360.Lib.PrefixBudget
import LivoxMid360.Lvx2.Writer
import LivoxMid360.Session

/-!
# The debug data files of the command line tool

`livox-mid360-cli debug-data` stores the debug datagrams of a LiDAR through a `Sink`, in
one of two formats.  A `raw` file has a header of 36 bytes and, for every datagram, a
record: receive time, source port, length and the bytes.  An `sdk2` file has a header of
128 bytes that ends in a CRC-16, and the bytes of the datagrams without any framing.

The sink counts the bytes it has written and stops for good at the first datagram that
would take the file past its maximum size.  The file is a `Disk`, and the stream in front
of it an `Ofstream` that stays bad once a write has failed; a buffered stream may report a
failure later than this one does, but has the same file when nothing fails.

`capture` is a whole run: `open`, a `write` for every datagram, `close`.  Its outcome, when
no file operation has failed, is `capture_outcome`: the header and the records of the
datagrams that are kept until one does not fit (`PrefixBudget.keep`), with `write` true for
these and false for the others.  The sum that is compared with the maximum size is one of
64-bit numbers; it does not wrap around because a file never outgrows `off_t` and a
datagram is at most 65535 bytes.
-/

namespace LivoxMid360

open LittleEndian PrefixBudget

/-! ## Output streams -/

/-- `std::ofstream` on a file. -/
structure Ofstream where
  disk : Disk
  good : Bool

namespace Ofstream

/-- `open(path, std::ios::binary | std::ios::trunc)`. -/
def «open» (disk : Disk) : Ofstream :=
  match disk.fopen with
  | (some _, disk) => { disk, good := false }
  | (none, disk) => { disk, good := true }

/-- `write`. -/
def write (o : Ofstream) (b : List UInt8) : Ofstream :=
  if o.good then
    let (n, disk) := o.disk.fwrite b
    { disk, good := n == b.length }
  else o

/-- `close`. -/
def close (o : Ofstream) : Ofstream :=
  match o.disk.fflush with
  | (some _, disk) => { disk, good := false }
  | (none, disk) => { o with disk }

/-- The stream is good and its file holds `content`. -/
structure Holds (o : Ofstream) (content : List UInt8) : Prop where
  good : o.good = true
  bytes : o.disk.bytes = content
  fits : content.length ≤ o.disk.limit

theorem open_cases (disk : Disk) :
    (Ofstream.open disk).disk.failed = true ∨ (Ofstream.open disk).Holds [] := by
  unfold Ofstream.open Disk.fopen
  cases disk.fopenErrno with
  | some => exact .inl rfl
  | none => exact .inr ⟨rfl, rfl, Nat.zero_le _⟩

variable {o : Ofstream}

theorem write_of_good (h : o.good = true) (b : List UInt8) :
    o.write b = { disk := (o.disk.fwrite b).2, good := (o.disk.fwrite b).1 == b.length } :=
  if_pos h

/-- A write that does not fail appends. -/
theorem Holds.write {content : List UInt8} (h : o.Holds content) (b : List UInt8) :
    (o.write b).disk.failed = true ∨ (o.write b).Holds (content ++ b) := by
  rw [write_of_good h.good]
  by_cases hcomplete : (o.disk.fwrite b).1 = b.length
  · obtain ⟨hbytes, hlimit⟩ := Disk.fwrite_complete hcomplete
    rw [h.bytes] at hbytes
    refine .inr ⟨beq_iff_eq.mpr hcomplete, hbytes, ?_⟩
    have hfits := hlimit (by rw [h.bytes]; exact h.fits)
    rwa [hbytes] at hfits
  · exact .inl (Disk.fwrite_short hcomplete)

theorem failed_write (h : o.disk.failed = true) (b : List UInt8) :
    (o.write b).disk.failed = true := by
  unfold Ofstream.write
  split_ifs
  · exact Disk.fwrite_failed b h
  · exact h

theorem close_cases (o : Ofstream) : o.close.disk.failed = true ∨ o.close = o := by
  unfold Ofstream.close Disk.fflush
  cases o.disk.fflushErrno with
  | some => exact .inl rfl
  | none => exact .inr rfl

end Ofstream

/-! ## The sink -/

/-- A debug datagram, as the callback of the device hands it on. -/
structure DebugDataPacket where
  hostReceiveTimeNs : UInt64
  sender : Endpoint
  data : List UInt8
deriving DecidableEq

/-- A LiDAR that has answered the discovery: the fields a debug data file records. -/
structure DiscoveredDevice where
  serialNumber : List UInt8
  devType : UInt8
deriving DecidableEq

namespace DebugData

/-- `LMDBGRAW`. -/
def kMagic : List UInt8 := [0x4C, 0x4D, 0x44, 0x42, 0x47, 0x52, 0x41, 0x57]
def kFormatVersion : UInt32 := 0
def kSerialSize : ℕ := 16
def kFileHeaderSize : ℕ := 36
def kRecordHeaderSize : ℕ := 14
def kDefaultMaxSize : UInt64 := 4294967296
def kSdk2HeaderSize : ℕ := 128
def kSdk2CrcOffset : ℕ := 126
def kSdk2FileVersion : UInt8 := 1
def kSdk2DataType : UInt8 := 1

inductive Format where
  | kRaw
  | kSdk2
deriving DecidableEq, Repr

/-- `header_size`. -/
def headerSize : Format → ℕ
  | .kSdk2 => kSdk2HeaderSize
  | .kRaw => kFileHeaderSize

/-- `record_overhead`. -/
def recordOverhead : Format → ℕ
  | .kSdk2 => 0
  | .kRaw => kRecordHeaderSize

variable (lidar : DiscoveredDevice)

/-- The header `open` fills in for an sdk2 file. -/
def sdk2Header : List UInt8 :=
  let serial := lidar.serialNumber
  let h : List UInt8 := List.replicate kSdk2HeaderSize 0
  let h := h.set 0 kSdk2FileVersion
  let h := h.set 1 lidar.devType
  let h := h.set 2 kSdk2DataType
  let h := overwrite h 3 (serial.take (min serial.length kSerialSize))
  let crc := Crc.crc16CcittFalse (h.take kSdk2CrcOffset)
  writeLe h kSdk2CrcOffset crc

/-- The header `open` fills in for a raw file, at the time `now` of the system clock. -/
def rawHeader (now : UInt64) : List UInt8 :=
  let serial := lidar.serialNumber
  let h : List UInt8 := List.replicate kFileHeaderSize 0
  let h := overwrite h 0 kMagic
  let h := writeLe h 8 kFormatVersion
  let h := overwrite h 12 (serial.take (min serial.length kSerialSize))
  writeLe h 28 now

/-- The record header `write` fills in. -/
def recordHeader (p : DebugDataPacket) : List UInt8 :=
  let h : List UInt8 := List.replicate kRecordHeaderSize 0
  let h := writeLe h 0 p.hostReceiveTimeNs
  let h := writeLe h 8 p.sender.port
  writeLe h 10 (UInt32.ofNat p.data.length)

/-- `Sink`. -/
structure Sink where
  out : Ofstream
  format : Format := .kRaw
  maxSize : UInt64 := kDefaultMaxSize
  bytes : UInt64 := 0
  packets : UInt64 := 0
  full : Bool := false
  failed : Bool := false

namespace Sink

/-- `open`, on a new sink. -/
def «open» (disk : Disk) (format : Format) (lidar : DiscoveredDevice) (maxSize now : UInt64) :
    Bool × Sink :=
  let s : Sink := { out := .open disk, format, maxSize }
  if s.out.good = false then (false, s)
  else
    let h :=
      match format with
      | .kSdk2 => sdk2Header lidar
      | .kRaw => rawHeader lidar now
    let s := { s with out := s.out.write h, bytes := UInt64.ofNat h.length }
    (s.out.good, s)

/-- The stream with a datagram: the writes of `write`. -/
def put (s : Sink) (p : DebugDataPacket) : Ofstream :=
  let out :=
    match s.format with
    | .kRaw => s.out.write (recordHeader p)
    | .kSdk2 => s.out
  out.write p.data

/-- `write`. -/
def write (s : Sink) (p : DebugDataPacket) : Bool × Sink :=
  if s.full ∨ s.failed then (false, s)
  else
    let overhead := recordOverhead s.format
    if s.bytes + UInt64.ofNat overhead + UInt64.ofNat p.data.length > s.maxSize then
      (false, { s with full := true })
    else
      let out := s.put p
      -- a part of the record may be in the file
      if out.good = false then (false, { s with out, failed := true })
      else
        (true, { s with
          out
          bytes := s.bytes + (UInt64.ofNat overhead + UInt64.ofNat p.data.length)
          packets := s.packets + 1 })

/-- `close`. -/
def close (s : Sink) : Bool × Sink :=
  let s := { s with out := s.out.close }
  (s.failed = false ∧ s.out.good, s)

/-- A `write` for every datagram: what the calls return, and the sink after them. -/
def writeAll (s : Sink) : List DebugDataPacket → List Bool × Sink
  | [] => ([], s)
  | p :: ps =>
    let (wrote, s) := s.write p
    let (rest, s) := s.writeAll ps
    (wrote :: rest, s)

end Sink

/-- What a run of the tool has returned and left behind. -/
structure Capture where
  opened : Bool
  wrote : List Bool
  closed : Bool
  sink : Sink

/-- A file is opened, the datagrams are written to it, and it is closed. -/
def capture (disk : Disk) (format : Format) (lidar : DiscoveredDevice) (maxSize now : UInt64)
    (packets : List DebugDataPacket) : Capture :=
  let (opened, s) := Sink.open disk format lidar maxSize now
  let (wrote, s) := s.writeAll packets
  let (closed, sink) := s.close
  { opened, wrote, closed, sink }

/-- The file a run has left. -/
def Capture.file (c : Capture) : List UInt8 :=
  c.sink.out.disk.bytes

/-- No file operation of the run has failed. -/
def Capture.Succeeded (c : Capture) : Prop :=
  c.sink.out.disk.failed = false

/-! ## What the headers hold -/

/-- Copying into a field of a zeroed buffer, behind a prefix. -/
theorem overwrite_padded {pre : List UInt8} {off : ℕ} (h : pre.length = off) (n m : ℕ)
    (bs : List UInt8) :
    overwrite (pre ++ List.replicate (n + m) 0) off (bs.take (min bs.length n)) =
      (pre ++ padded n bs) ++ List.replicate m 0 := by
  have hcopied : bs.take (min bs.length n) = bs.take n := by
    rw [← List.take_take, List.take_of_length_le (l := bs.take n)]
    exact (List.length_take_le' n bs)
  have hzeros : n + m - (bs.take n).length = (n - bs.length) + m := by
    rw [List.length_take]
    omega
  rw [overwrite_append h, hcopied, List.drop_replicate, hzeros, List.replicate_add, padded]
  simp only [List.append_assoc]

/-- A word stored in a zeroed buffer, behind a prefix. -/
theorem writeLe_zeros {α : Type} [LeWord α] {pre : List UInt8} {off : ℕ} (h : pre.length = off)
    (m : ℕ) (a : α) :
    writeLe (pre ++ List.replicate (LeWord.size α + m) 0) off a =
      (pre ++ encodeLe a) ++ List.replicate m 0 := by
  rw [writeLe_append h, List.drop_replicate, Nat.add_sub_cancel_left]

theorem rawHeader_eq (now : UInt64) :
    rawHeader lidar now = ((kMagic ++ encodeLe kFormatVersion) ++
      padded kSerialSize lidar.serialNumber) ++ encodeLe now := by
  have hversion : writeLe (kMagic ++ List.replicate 28 0) 8 kFormatVersion =
      (kMagic ++ encodeLe kFormatVersion) ++ List.replicate 24 0 :=
    writeLe_zeros rfl 24 kFormatVersion
  have hnow := writeLe_zeros (h := show ((kMagic ++ encodeLe kFormatVersion) ++
    padded kSerialSize lidar.serialNumber).length = 28 by simp [kMagic, kSerialSize]) 0 now
  calc rawHeader lidar now
      = writeLe (overwrite (writeLe (kMagic ++ List.replicate 28 0) 8 kFormatVersion) 12
          (lidar.serialNumber.take (min lidar.serialNumber.length kSerialSize))) 28 now := rfl
    _ = writeLe (((kMagic ++ encodeLe kFormatVersion) ++ padded kSerialSize lidar.serialNumber) ++
          List.replicate 8 0) 28 now := by
        rw [hversion]
        exact congrArg (writeLe · 28 now) (overwrite_padded rfl kSerialSize 8 _)
    _ = ((kMagic ++ encodeLe kFormatVersion) ++ padded kSerialSize lidar.serialNumber) ++
          encodeLe now := hnow.trans (List.append_nil _)

/-- The part of an sdk2 header the checksum covers. -/
def sdk2Fields : List UInt8 :=
  ([kSdk2FileVersion, lidar.devType, kSdk2DataType] ++ padded kSerialSize lidar.serialNumber) ++
    List.replicate 107 0

@[simp] theorem sdk2Fields_length : (sdk2Fields lidar).length = kSdk2CrcOffset := by
  simp [sdk2Fields, kSerialSize, kSdk2CrcOffset]

theorem sdk2Header_eq :
    sdk2Header lidar = sdk2Fields lidar ++ encodeLe (Crc.crc16CcittFalse (sdk2Fields lidar)) := by
  have hfields : overwrite ([kSdk2FileVersion, lidar.devType, kSdk2DataType] ++
      List.replicate (kSerialSize + 109) 0) 3
        (lidar.serialNumber.take (min lidar.serialNumber.length kSerialSize)) =
      sdk2Fields lidar ++ List.replicate 2 0 := by
    refine (overwrite_padded rfl kSerialSize 109 _).trans ?_
    rw [sdk2Fields, List.append_assoc _ (List.replicate 107 0), ← List.replicate_add]
  have hcrc : (sdk2Fields lidar ++ List.replicate 2 0).take kSdk2CrcOffset = sdk2Fields lidar :=
    List.take_left' (sdk2Fields_length lidar)
  have hheader : sdk2Header lidar = writeLe (sdk2Fields lidar ++ List.replicate 2 0)
      kSdk2CrcOffset (Crc.crc16CcittFalse
        ((sdk2Fields lidar ++ List.replicate 2 0).take kSdk2CrcOffset)) := by
    rw [← hfields]
    rfl
  rw [hheader, hcrc]
  exact (writeLe_zeros (sdk2Fields_length lidar) 0 _).trans (List.append_nil _)

theorem recordHeader_eq (p : DebugDataPacket) :
    recordHeader p = (encodeLe p.hostReceiveTimeNs ++ encodeLe p.sender.port) ++
      encodeLe (UInt32.ofNat p.data.length) := by
  have htime : writeLe (List.replicate kRecordHeaderSize 0) 0 p.hostReceiveTimeNs =
      encodeLe p.hostReceiveTimeNs ++ List.replicate 6 0 :=
    writeLe_zeros (h := List.length_nil) 6 p.hostReceiveTimeNs
  have hport : writeLe (encodeLe p.hostReceiveTimeNs ++ List.replicate 6 0) 8 p.sender.port =
      (encodeLe p.hostReceiveTimeNs ++ encodeLe p.sender.port) ++ List.replicate 4 0 :=
    writeLe_zeros (encodeLe_length _) 4 p.sender.port
  rw [recordHeader, htime, hport]
  exact (writeLe_zeros (by simp) 0 _).trans (List.append_nil _)

variable (format : Format)

/-- The header of a file. -/
def fileHeader (lidar : DiscoveredDevice) (now : UInt64) : List UInt8 :=
  match format with
  | .kSdk2 => sdk2Header lidar
  | .kRaw => rawHeader lidar now

/-- What a file holds for a datagram. -/
def recordBytes (p : DebugDataPacket) : List UInt8 :=
  match format with
  | .kSdk2 => p.data
  | .kRaw => recordHeader p ++ p.data

/-- The bytes a datagram takes in a file. -/
def recordSize (p : DebugDataPacket) : ℕ :=
  recordOverhead format + p.data.length

@[simp] theorem fileHeader_length (lidar : DiscoveredDevice) (now : UInt64) :
    (fileHeader format lidar now).length = headerSize format := by
  cases format with
  | kRaw => simp [fileHeader, rawHeader_eq, headerSize, kMagic, kSerialSize, kFileHeaderSize]
  | kSdk2 => simp [fileHeader, sdk2Header_eq, headerSize, kSdk2CrcOffset, kSdk2HeaderSize]

@[simp] theorem recordBytes_length (p : DebugDataPacket) :
    (recordBytes format p).length = recordSize format p := by
  cases format with
  | kRaw =>
    simp only [recordBytes, recordSize, recordHeader_eq, recordOverhead, kRecordHeaderSize,
      List.length_append, encodeLe_length, size_uint64, size_uint16, size_uint32]
  | kSdk2 => simp [recordBytes, recordSize, recordOverhead]

theorem records_length (ps : List DebugDataPacket) :
    (ps.flatMap (recordBytes format)).length = total (recordSize format) ps := by
  simp [List.length_flatMap, total]

/-! ## A run of the sink -/

namespace Sink

/-- The sink takes datagrams: its stream holds `content`, and it counts these bytes. -/
structure Taking (s : Sink) (format : Format) (maxSize : UInt64) (content : List UInt8) :
    Prop where
  out : s.out.Holds content
  bytes : s.bytes.toNat = content.length
  fits : content.length ≤ maxSize.toNat
  format : s.format = format
  maxSize : s.maxSize = maxSize
  full : s.full = false
  failed : s.failed = false

variable {s : Sink} {format : Format} {maxSize : UInt64} {content : List UInt8}

variable {p : DebugDataPacket}

/-- The number the maximum size is compared with is the size the file would have: neither
sum wraps around. -/
theorem Taking.sizes (h : s.Taking format maxSize content) (hsize : p.data.length ≤ 65535) :
    (s.bytes + UInt64.ofNat (recordOverhead format) + UInt64.ofNat p.data.length).toNat =
        content.length + recordSize format p ∧
      (s.bytes + (UInt64.ofNat (recordOverhead format) + UInt64.ofNat p.data.length)).toNat =
        content.length + recordSize format p := by
  have hcontent : content.length < 0x8000000000000000 := h.out.fits.trans_lt s.out.disk.limit_lt
  have hoverhead : recordOverhead format ≤ 14 := by cases format <;> decide
  have hbytes := h.bytes
  rw [recordSize]
  simp only [UInt64.toNat_add, UInt64.toNat_ofNat']
  omega

/-- The writes of a datagram append its record, unless one fails. -/
theorem Taking.put (h : s.Taking format maxSize content) (p : DebugDataPacket) :
    (s.put p).disk.failed = true ∨ (s.put p).Holds (content ++ recordBytes format p) := by
  unfold Sink.put recordBytes
  rw [h.format]
  cases format with
  | kSdk2 => exact h.out.write p.data
  | kRaw =>
    dsimp only
    -- two writes: the record is whole only if the second succeeds as well
    obtain hfailed | hheader := h.out.write (recordHeader p)
    · exact .inl (Ofstream.failed_write hfailed p.data)
    · rw [← List.append_assoc]
      exact hheader.write p.data

theorem failed_put (h : s.out.disk.failed = true) (p : DebugDataPacket) :
    (s.put p).disk.failed = true := by
  unfold Sink.put
  cases s.format with
  | kSdk2 => exact Ofstream.failed_write h p.data
  | kRaw => exact Ofstream.failed_write (Ofstream.failed_write h (recordHeader p)) p.data

/-- **A datagram that fits** is stored, unless a file operation fails. -/
theorem Taking.write (h : s.Taking format maxSize content) (hsize : p.data.length ≤ 65535)
    (hfits : content.length + recordSize format p ≤ maxSize.toNat) :
    (s.write p).2.out.disk.failed = true ∨ (s.write p).1 = true ∧
      (s.write p).2.Taking format maxSize (content ++ recordBytes format p) := by
  obtain ⟨hsum, hbytes⟩ := h.sizes hsize
  have hopen : ¬(s.full ∨ s.failed) := by simp [h.full, h.failed]
  have hroom : ¬s.bytes + UInt64.ofNat (recordOverhead s.format) + UInt64.ofNat p.data.length >
      s.maxSize := by
    rw [h.format, h.maxSize, gt_iff_lt, UInt64.lt_iff_toNat_lt, hsum]
    omega
  rw [Sink.write, if_neg hopen, if_neg hroom]
  dsimp only
  obtain hfailed | hput := h.put p
  · left
    split_ifs <;> exact hfailed
  · rw [if_neg (by simp [hput.good])]
    have hlength : (content ++ recordBytes format p).length =
        content.length + recordSize format p := by rw [List.length_append, recordBytes_length]
    refine .inr ⟨rfl, hput, ?_, hlength ▸ hfits, h.format, h.maxSize, h.full, h.failed⟩
    rw [hlength, ← hbytes, ← h.format]

/-- **A datagram that does not fit** is refused, and the sink is full. -/
theorem Taking.write_of_lt (h : s.Taking format maxSize content) (hsize : p.data.length ≤ 65535)
    (hfull : maxSize.toNat < content.length + recordSize format p) :
    s.write p = (false, { s with full := true }) := by
  have hopen : ¬(s.full ∨ s.failed) := by simp [h.full, h.failed]
  have hroom : s.bytes + UInt64.ofNat (recordOverhead s.format) + UInt64.ofNat p.data.length >
      s.maxSize := by
    rw [h.format, h.maxSize, gt_iff_lt, UInt64.lt_iff_toNat_lt, (h.sizes hsize).1]
    exact hfull
  rw [Sink.write, if_neg hopen, if_pos hroom]

theorem failed_write (h : s.out.disk.failed = true) (p : DebugDataPacket) :
    (s.write p).2.out.disk.failed = true := by
  unfold Sink.write
  dsimp only
  split_ifs
  · exact h
  · exact h
  · exact failed_put h p
  · exact failed_put h p

theorem failed_writeAll (h : s.out.disk.failed = true) (ps : List DebugDataPacket) :
    (s.writeAll ps).2.out.disk.failed = true := by
  induction ps generalizing s with
  | nil => exact h
  | cons p ps ih => exact ih (failed_write h p)

/-- A full sink takes nothing more. -/
theorem writeAll_of_full (h : s.full = true) (ps : List DebugDataPacket) :
    s.writeAll ps = (List.replicate ps.length false, s) := by
  induction ps with
  | nil => rfl
  | cons p ps ih =>
    have hwrite : s.write p = (false, s) := if_pos (.inl h)
    rw [writeAll, hwrite]
    dsimp only
    rw [ih]
    rfl

/-- **The calls of `write`** store the datagrams that are kept within what is left of the
maximum size, and return true for these only. -/
theorem Taking.writeAll (h : s.Taking format maxSize content) {ps : List DebugDataPacket}
    (hsize : ∀ p ∈ ps, p.data.length ≤ 65535)
    (hio : (s.writeAll ps).2.out.disk.failed = false) {kept : List DebugDataPacket}
    (hkept : kept = keep (recordSize format) (maxSize.toNat - content.length) ps) :
    (s.writeAll ps).1 =
        List.replicate kept.length true ++ List.replicate (ps.length - kept.length) false ∧
      (s.writeAll ps).2.out.Holds (content ++ kept.flatMap (recordBytes format)) := by
  -- induction on the datagrams; the budget is what is left of the maximum size
  induction ps generalizing s content kept with
  | nil =>
    subst hkept
    exact ⟨rfl, by simpa [keep, Sink.writeAll] using h.out⟩
  | cons p ps ih =>
    have hp : p.data.length ≤ 65535 := hsize p (by simp)
    have hps : ∀ q ∈ ps, q.data.length ≤ 65535 := fun q hq => hsize q (by simp [hq])
    by_cases hfits : content.length + recordSize format p ≤ maxSize.toNat
    · obtain hfailed | ⟨htrue, htaking⟩ := h.write hp hfits
      · exact absurd (failed_writeAll hfailed ps) (Bool.eq_false_iff.mp hio)
      · rw [keep, if_pos (by omega), Nat.sub_sub, ← recordBytes_length,
          ← List.length_append] at hkept
        subst hkept
        obtain ⟨hresults, hholds⟩ := ih htaking hps hio rfl
        refine ⟨?_, ?_⟩
        · simp [Sink.writeAll, htrue, hresults, List.replicate_succ]
        · rw [List.flatMap_cons, ← List.append_assoc]
          exact hholds
    · have hbound := h.fits
      rw [keep, if_neg (by omega)] at hkept
      have hwrite := h.write_of_lt hp (Nat.lt_of_not_le hfits)
      subst hkept
      rw [Sink.writeAll, hwrite]
      dsimp only
      rw [writeAll_of_full rfl]
      exact ⟨rfl, by simpa using h.out⟩

/-- `open` writes the header, unless a file operation fails. -/
theorem open_cases (disk : Disk) (lidar : DiscoveredDevice) (now : UInt64)
    (hmax : headerSize format ≤ maxSize.toNat) :
    (Sink.open disk format lidar maxSize now).2.out.disk.failed = true ∨
      (Sink.open disk format lidar maxSize now).1 = true ∧
      (Sink.open disk format lidar maxSize now).2.Taking format maxSize
        (fileHeader format lidar now) := by
  have hheader : headerSize format < 0x10000000000000000 := by cases format <;> decide
  have hlength := fileHeader_length format lidar now
  obtain hfailed | hopen := Ofstream.open_cases disk
  · left
    unfold Sink.open
    dsimp only
    split_ifs
    · exact hfailed
    · exact Ofstream.failed_write hfailed _
  · have hsink : Sink.open disk format lidar maxSize now =
        (((Ofstream.open disk).write (fileHeader format lidar now)).good,
          { out := (Ofstream.open disk).write (fileHeader format lidar now), format, maxSize,
            bytes := UInt64.ofNat (fileHeader format lidar now).length }) :=
      if_neg (by simp [hopen.good])
    rw [hsink]
    obtain hfailed | hholds := hopen.write (fileHeader format lidar now)
    · exact .inl hfailed
    · refine .inr ⟨hholds.good, hholds, ?_, hlength ▸ hmax, rfl, rfl, rfl, rfl⟩
      exact UInt64.toNat_ofNat_of_lt' (hlength ▸ hheader)

end Sink

/-- **A run without a failed file operation**: the file is the header and the records of
the datagrams that are kept within the maximum size, and `write` is true for these only. -/
theorem capture_outcome {disk : Disk} {format : Format} {lidar : DiscoveredDevice}
    {maxSize now : UInt64} (hmax : headerSize format ≤ maxSize.toNat)
    {packets : List DebugDataPacket} (hsize : ∀ p ∈ packets, p.data.length ≤ 65535)
    (hio : (capture disk format lidar maxSize now packets).Succeeded)
    {kept : List DebugDataPacket}
    (hkept : kept = keep (recordSize format) (maxSize.toNat - headerSize format) packets) :
    (capture disk format lidar maxSize now packets).wrote =
        List.replicate kept.length true ++ List.replicate (packets.length - kept.length) false ∧
      (capture disk format lidar maxSize now packets).file =
        fileHeader format lidar now ++ kept.flatMap (recordBytes format) := by
  -- `close` only flushes, so the file is the one the writes have left
  have hclosed : ((Sink.open disk format lidar maxSize now).2.writeAll packets).2.out.close =
      ((Sink.open disk format lidar maxSize now).2.writeAll packets).2.out := by
    obtain hfailed | hsame := Ofstream.close_cases _
    · exact absurd hfailed (Bool.eq_false_iff.mp hio)
    · exact hsame
  have hfile : (capture disk format lidar maxSize now packets).file =
      ((Sink.open disk format lidar maxSize now).2.writeAll packets).2.out.disk.bytes :=
    congrArg (fun o : Ofstream => o.disk.bytes) hclosed
  have hwritten : ((Sink.open disk format lidar maxSize now).2.writeAll
      packets).2.out.disk.failed = false := by
    rw [← hclosed]
    exact hio
  obtain hfailed | ⟨-, htaking⟩ := Sink.open_cases disk lidar now hmax
  · exact absurd (Sink.failed_writeAll hfailed packets) (Bool.eq_false_iff.mp hwritten)
  · rw [← fileHeader_length format lidar now] at hkept
    obtain ⟨hresults, hholds⟩ := htaking.writeAll hsize hwritten hkept
    exact ⟨hresults, hfile.trans hholds.bytes⟩

end DebugData

end LivoxMid360
