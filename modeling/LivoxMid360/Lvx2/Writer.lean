import LivoxMid360.Lvx2.Format

/-!
# The lvx2 writer

`Lvx2Writer` appends packages to an open frame in memory and moves the frame to the
file when a package belongs to a later slot of the recording's time line.

The C library below it is a `Disk`: `fwrite` stores a prefix of what it is given, of
any length, `fopen` and `fflush` may fail, and a file never outgrows `off_t`.
`Disk.failed` remembers whether any file operation has failed.

`Recorded` is the invariant of an open writer on a disk that has not failed: the
file is the chain of the closed frames (`encodeFile`), and the open frame holds the
remaining packages.  Every operation either keeps it or marks the disk as failed
(`Recorded.write`, `Recorded.flushFrame`), and `recorded_file` is the outcome of a
whole recording: the file is a chain of non-empty frames that hold, in order, the
packages of the packets written.
-/

namespace LivoxMid360

open LittleEndian Lvx2

/-! ## The file -/

/-- The file behind a path, and how the C library will treat it. -/
structure Disk where
  bytes : List UInt8 := []
  /-- The largest size a file can have. -/
  limit : ℕ
  limit_lt : limit < 2 ^ 63
  fopenErrno : Option Int32 := none
  /-- The most bytes the `n`-th `fwrite` stores. -/
  accepts : ℕ → ℕ
  fwriteErrno : Int32 := 0
  fflushErrno : Option Int32 := none
  /-- The calls of `fwrite` so far. -/
  writes : ℕ := 0
  failed : Bool := false

namespace Disk

/-- `fopen(path, "wb")`: `none`, or the error. -/
def fopen (d : Disk) : Option Int32 × Disk :=
  match d.fopenErrno with
  | some errno => (some errno, { d with failed := true })
  | none => (none, { d with bytes := [] })

/-- `fwrite`: the number of bytes stored. -/
def fwrite (d : Disk) (b : List UInt8) : ℕ × Disk :=
  let n := min b.length (min (d.accepts d.writes) (d.limit - d.bytes.length))
  (n, { d with
    bytes := d.bytes ++ b.take n
    writes := d.writes + 1
    failed := d.failed || n != b.length })

/-- `fflush`: `none`, or the error. -/
def fflush (d : Disk) : Option Int32 × Disk :=
  match d.fflushErrno with
  | some errno => (some errno, { d with failed := true })
  | none => (none, d)

theorem fopen_cases (d : Disk) :
    (∃ errno d', d.fopen = (some errno, d') ∧ d'.failed = true) ∨
      ∃ d', d.fopen = (none, d') ∧ d'.bytes = [] := by
  unfold fopen
  cases d.fopenErrno with
  | some errno => exact .inl ⟨errno, _, rfl, rfl⟩
  | none => exact .inr ⟨_, rfl, rfl⟩

variable {d : Disk}

/-- A complete `fwrite` has stored everything, within the limit. -/
theorem fwrite_complete {b : List UInt8} (h : (d.fwrite b).1 = b.length) :
    (d.fwrite b).2.bytes = d.bytes ++ b ∧
      (d.bytes.length ≤ d.limit → (d.fwrite b).2.bytes.length ≤ d.limit) := by
  simp only [fwrite] at h ⊢
  rw [h, List.take_length]
  refine ⟨rfl, fun hfits => ?_⟩
  rw [List.length_append]
  omega

/-- A short `fwrite` is a failure. -/
theorem fwrite_short {b : List UInt8} (h : (d.fwrite b).1 ≠ b.length) :
    (d.fwrite b).2.failed = true := by
  simp only [fwrite, Bool.or_eq_true, bne_iff_ne] at h ⊢
  exact .inr h

theorem fwrite_failed (b : List UInt8) (h : d.failed = true) : (d.fwrite b).2.failed = true := by
  simp [fwrite, h]

theorem fflush_of_not_failed (h : d.fflush.2.failed = false) : d.fflush = (none, d) := by
  unfold fflush at *
  cases herrno : d.fflushErrno with
  | none => rfl
  | some => simp [herrno] at h

end Disk

/-! ## The writer -/

structure Lvx2Writer.Stats where
  packets : ℕ := 0
  frames : ℕ := 0
  bytes : UInt64 := 0
  ignored : ℕ := 0
deriving DecidableEq, Repr

structure Lvx2Writer.DeviceClock where
  base : Option UInt64 := none
  prev : UInt64 := 0
deriving DecidableEq, Repr

/-- The writer and the file at its path; `isOpen` says whether it holds the file. -/
structure Lvx2Writer where
  disk : Disk
  isOpen : Bool := false
  lidarIds : List UInt32 := []
  frameDurationMs : UInt32 := 50
  stats : Lvx2Writer.Stats := {}
  frame : List UInt8 := []
  frameSlot : Option UInt64 := none
  clocks : List Lvx2Writer.DeviceClock := []
  latestNs : Int64 := 0
  frameIndex : UInt64 := 0
  offset : UInt64 := 0

namespace Lvx2

/-- `kCentidegToRad`, in double precision. -/
def kCentidegToRadF64 : Float := 3.14159265358979323846 / 18000.0

/-- `static_cast<std::int32_t>(std::lround(x))`, as bytes. -/
def roundLe (x : Float) : List UInt8 :=
  encodeLe x.round.toInt64.toInt32.toUInt32

/-- `spherical_to_cartesian32`. -/
def sphericalToCartesian32 (pkt : DataPacketView) (i : ℕ) : List UInt8 :=
  let p := decodeSpherical pkt i
  let d := p.depthMm.toFloat
  let theta := p.thetaCentideg.toFloat * kCentidegToRadF64
  let phi := p.phiCentideg.toFloat * kCentidegToRadF64
  let st := theta.sin
  roundLe (d * st * phi.cos) ++ (roundLe (d * st * phi.sin) ++ (roundLe (d * theta.cos) ++
    [p.reflectivity, p.tag]))

/-- The data type and the samples a packet has in a file; `none` for IMU packets,
which are not recorded. -/
def recordedSamples (packet : DataPacketView) : Option (DataType × List UInt8) :=
  match packet.header.dataType with
  | .kImu => none
  | .kCartesian32 => some (.kCartesian32, packet.data)
  | .kCartesian16 => some (.kCartesian16, packet.data)
  | .kSpherical =>
    let n := packet.data.length / sampleSize .kSpherical
    some (.kCartesian32, (List.range n).flatMap (sphericalToCartesian32 packet))

/-- The package of a packet. -/
def recordedPackage (lidarId : UInt32) (packet : DataPacketView) (dataType : DataType)
    (points : List UInt8) : Lvx2Package where
  lidarId
  lidarType := 0
  timestampType := packet.header.timeType.raw
  timestampNs := packet.header.timestampNs
  udpCounter := packet.header.udpCnt
  dataType
  frameCounter := packet.header.frameCnt
  points

end Lvx2

namespace Lvx2

@[simp] theorem sphericalToCartesian32_length (pkt : DataPacketView) (i : ℕ) :
    (sphericalToCartesian32 pkt i).length = sampleSize .kCartesian32 := by
  simp [sphericalToCartesian32, roundLe, sampleSize]

/-- The samples of a well-formed packet are a whole number of Cartesian samples, as
many as the packet has. -/
theorem recordedSamples_length {packet : DataPacketView} (h : packet.WellFormed)
    {dataType : DataType} {points : List UInt8}
    (hsamples : recordedSamples packet = some (dataType, points)) :
    (dataType = .kCartesian32 ∨ dataType = .kCartesian16) ∧
      points.length = packet.header.dotNum.toNat * sampleSize dataType := by
  rw [DataPacketView.WellFormed] at h
  unfold recordedSamples at hsamples
  cases htype : packet.header.dataType with
  | kImu => simp [htype] at hsamples
  | kCartesian32 =>
    rw [htype] at h hsamples
    cases hsamples
    exact ⟨.inl rfl, h⟩
  | kCartesian16 =>
    rw [htype] at h hsamples
    cases hsamples
    exact ⟨.inr rfl, h⟩
  | kSpherical =>
    rw [htype] at h hsamples
    cases hsamples
    refine ⟨.inl rfl, ?_⟩
    rw [h, Nat.mul_div_cancel _ (by decide), List.length_flatMap]
    simp

end Lvx2

namespace Lvx2Writer

/-- A writer that has never been opened. -/
def new (disk : Disk) : Lvx2Writer :=
  { disk }

/-- `write_bytes`. -/
def writeBytes (w : Lvx2Writer) (b : List UInt8) : Except Lvx2Error Unit × Lvx2Writer :=
  if b = [] then (.ok (), w)
  else
    let (n, disk) := w.disk.fwrite b
    let w := { w with disk }
    if n ≠ b.length then (.error (ioError disk.fwriteErrno "write"), w) else (.ok (), w)

/-- `flush_frame`. -/
def flushFrame (w : Lvx2Writer) : Except Lvx2Error Unit × Lvx2Writer :=
  if w.frame = [] then (.ok (), w)
  else
    let next := w.offset + UInt64.ofNat (kFrameHeaderSize + w.frame.length)
    match w.writeBytes (encodeFrameHeader w.offset w.frameIndex w.frame.length) with
    | (.error e, w) => (.error e, w)
    | (.ok (), w) =>
      match w.writeBytes w.frame with
      | (.error e, w) => (.error e, w)
      | (.ok (), w) =>
        (.ok (), { w with
          offset := next
          stats := { w.stats with bytes := next, frames := w.stats.frames + 1 }
          frameIndex := w.frameIndex + 1
          frame := []
          frameSlot := none })

/-- The fields `open` sets before it writes the header. -/
def start (w : Lvx2Writer) (disk : Disk) (devices : List Lvx2DeviceInfo)
    (frameDurationMs : UInt32) : Lvx2Writer :=
  { w with
    disk
    isOpen := true
    lidarIds := devices.map Lvx2DeviceInfo.lidarId
    frameDurationMs
    stats := {}
    frame := []
    frameSlot := none
    clocks := List.replicate devices.length {}
    latestNs := 0
    frameIndex := 0 }

/-- `open`. -/
def «open» (w : Lvx2Writer) (path : String) (devices : List Lvx2DeviceInfo)
    (frameDurationMs : UInt32) : Except Lvx2Error Unit × Lvx2Writer :=
  if w.isOpen then (.error (invalidArgument "already open"), w)
  else if devices = [] ∨ devices.length > 255 then
    (.error (invalidArgument "device count must be 1..255"), w)
  else if frameDurationMs = 0 then
    (.error (invalidArgument "frame_duration_ms must be > 0"), w)
  else
    match w.disk.fopen with
    | (some errno, disk) => (.error (ioError errno ("open " ++ path)), { w with disk })
    | (none, disk) =>
      let hdr := encodeFileHeader devices frameDurationMs
      match (w.start disk devices frameDurationMs).writeBytes hdr with
      | (.error e, w) => (.error e, { w with isOpen := false })
      | (.ok (), w) =>
        (.ok (), { w with
          offset := UInt64.ofNat hdr.length
          stats := { w.stats with bytes := UInt64.ofNat hdr.length } })

/-- The clock of a device with a timestamp on the recording's time line: the slot of
the time line the timestamp falls in. -/
def advanceClock (w : Lvx2Writer) (deviceIndex : ℕ) (ts : UInt64) : UInt64 × Lvx2Writer :=
  let clock := w.clocks.getD deviceIndex {}
  let moved := if ts > clock.prev then ts - clock.prev else clock.prev - ts
  let base :=
    match clock.base with
    | none => ts - w.latestNs.toUInt64
    | some base => if moved > kClockJumpNs then ts - w.latestNs.toUInt64 else base
  let timeNs := (ts - base).toInt64
  let slot :=
    if timeNs ≤ 0 then 0 else timeNs.toUInt64 / (w.frameDurationMs.toUInt64 * 1000000)
  (slot, { w with
    clocks := w.clocks.set deviceIndex { base := some base, prev := ts }
    latestNs := max w.latestNs timeNs })

/-- Closes the open frame when the package belongs to a later slot. -/
def cutFrame (w : Lvx2Writer) (slot : UInt64) : Except Lvx2Error Unit × Lvx2Writer :=
  match w.frameSlot with
  | some frameSlot => if slot > frameSlot then w.flushFrame else (.ok (), w)
  | none => (.ok (), w)

/-- The slot of the open frame once a package is added. -/
def nextSlot (frameSlot : Option UInt64) (slot : UInt64) : UInt64 :=
  match frameSlot with
  | none => slot
  | some frameSlot => if slot > frameSlot then slot else frameSlot

/-- Appends a package to the open frame. -/
def addPackage (w : Lvx2Writer) (slot : UInt64) (package : Lvx2Package) : Lvx2Writer :=
  { w with
    frameSlot := some (nextSlot w.frameSlot slot)
    frame := w.frame ++ encodePackage package
    stats := { w.stats with packets := w.stats.packets + 1 } }

/-- `write`.  The data types of the protocol are the four of `DataType`, so the
branch of the source for an unknown one is not reached. -/
def write (w : Lvx2Writer) (deviceIndex : ℕ) (packet : DataPacketView) :
    Except Lvx2Error Bool × Lvx2Writer :=
  if w.isOpen = false then (.error (invalidArgument "not open"), w)
  else if deviceIndex ≥ w.lidarIds.length then
    (.error (invalidArgument "device_index out of range"), w)
  else
    match recordedSamples packet with
    | none => (.ok false, { w with stats := { w.stats with ignored := w.stats.ignored + 1 } })
    | some (dataType, points) =>
      let (slot, w) := w.advanceClock deviceIndex packet.header.timestampNs
      match w.cutFrame slot with
      | (.error e, w) => (.error e, w)
      | (.ok (), w) =>
        (.ok true, w.addPackage slot
          (recordedPackage (w.lidarIds.getD deviceIndex 0) packet dataType points))

/-- `close`. -/
def close (w : Lvx2Writer) : Except Lvx2Error Unit × Lvx2Writer :=
  if w.isOpen = false then (.ok (), w)
  else
    let (r, w) := w.flushFrame
    let (errno, disk) := w.disk.fflush
    let r :=
      match errno, r with
      | some errno, .ok () => .error (ioError errno "flush")
      | _, r => r
    (r, { w with disk, isOpen := false })

/-- A sequence of `write` calls, with their results. -/
def writeAll (w : Lvx2Writer) : List (ℕ × DataPacketView) →
    List (Except Lvx2Error Bool) × Lvx2Writer
  | [] => ([], w)
  | (deviceIndex, packet) :: writes =>
    let (r, w) := w.write deviceIndex packet
    let (rs, w) := w.writeAll writes
    (r :: rs, w)

end Lvx2Writer

/-- The results of a recording, and the writer it leaves. -/
structure Recording where
  opened : Except Lvx2Error Unit
  wrote : List (Except Lvx2Error Bool)
  closed : Except Lvx2Error Unit
  writer : Lvx2Writer

/-- A recording with a new writer: `open`, the calls of `write`, `close`. -/
def record (disk : Disk) (path : String) (devices : List Lvx2DeviceInfo)
    (frameDurationMs : UInt32) (writes : List (ℕ × DataPacketView)) : Recording :=
  let (opened, w) := (Lvx2Writer.new disk).open path devices frameDurationMs
  let (wrote, w) := w.writeAll writes
  let (closed, writer) := w.close
  { opened, wrote, closed, writer }

/-! ## A failed disk stays failed -/

namespace Lvx2Writer

variable {w : Lvx2Writer}

theorem writeBytes_failed (b : List UInt8) (h : w.disk.failed = true) :
    (w.writeBytes b).2.disk.failed = true := by
  unfold writeBytes
  dsimp only
  split_ifs
  · exact h
  · exact Disk.fwrite_failed b h
  · exact Disk.fwrite_failed b h

theorem flushFrame_failed (h : w.disk.failed = true) : w.flushFrame.2.disk.failed = true := by
  unfold flushFrame
  split_ifs
  · exact h
  · have hheader := writeBytes_failed (encodeFrameHeader w.offset w.frameIndex w.frame.length) h
    dsimp only
    rcases hfirst : w.writeBytes _ with ⟨_ | _, w₁⟩
    · rw [hfirst] at hheader
      exact hheader
    · rw [hfirst] at hheader
      have hbody := writeBytes_failed w₁.frame hheader
      dsimp only
      rcases hsecond : w₁.writeBytes w₁.frame with ⟨_ | _, w₂⟩
      all_goals
        rw [hsecond] at hbody
        exact hbody

theorem cutFrame_failed (slot : UInt64) (h : w.disk.failed = true) :
    (w.cutFrame slot).2.disk.failed = true := by
  unfold cutFrame
  split
  · split_ifs
    · exact flushFrame_failed h
    · exact h
  · exact h

theorem write_failed (deviceIndex : ℕ) (packet : DataPacketView) (h : w.disk.failed = true) :
    (w.write deviceIndex packet).2.disk.failed = true := by
  unfold write
  split_ifs
  · exact h
  · exact h
  · cases recordedSamples packet with
    | none => exact h
    | some =>
      have hcut := cutFrame_failed (w := (w.advanceClock deviceIndex
        packet.header.timestampNs).2) (w.advanceClock deviceIndex packet.header.timestampNs).1 h
      dsimp only
      rcases hflushed : cutFrame _ _ with ⟨_ | _, w₁⟩ <;> rw [hflushed] at hcut <;> exact hcut

theorem writeAll_failed (writes : List (ℕ × DataPacketView)) (h : w.disk.failed = true) :
    (w.writeAll writes).2.disk.failed = true := by
  induction writes generalizing w with
  | nil => exact h
  | cons write writes ih => exact ih (write_failed write.1 write.2 h)

theorem close_failed (h : w.disk.failed = true) : w.close.2.disk.failed = true := by
  unfold close
  split_ifs
  · exact h
  · have hflush := flushFrame_failed h
    dsimp only
    unfold Disk.fflush
    cases w.flushFrame.2.disk.fflushErrno with
    | none => exact hflush
    | some => rfl

end Lvx2Writer

/-! ## What each operation stores -/

/-- `d'` is `d` with `b` behind its end. -/
structure Disk.Stored (d : Disk) (b : List UInt8) (d' : Disk) : Prop where
  bytes : d'.bytes = d.bytes ++ b
  fits : d.bytes.length ≤ d.limit → d'.bytes.length ≤ d'.limit

theorem Disk.Stored.trans {d₁ d₂ d₃ : Disk} {b c : List UInt8} (h : Stored d₁ b d₂)
    (h' : Stored d₂ c d₃) : Stored d₁ (b ++ c) d₃ where
  bytes := by rw [h'.bytes, h.bytes, List.append_assoc]
  fits hfits := h'.fits (h.fits hfits)

namespace Lvx2Writer

variable (w : Lvx2Writer)

/-- `write_bytes` stores everything, or fails and changes nothing but the disk. -/
theorem writeBytes_cases (b : List UInt8) :
    (∃ e disk, w.writeBytes b = (.error e, { w with disk }) ∧ disk.failed = true ∧
        disk.limit = w.disk.limit) ∨
      ∃ disk, w.writeBytes b = (.ok (), { w with disk }) ∧ w.disk.Stored b disk := by
  unfold writeBytes
  by_cases hempty : b = []
  · rw [if_pos hempty]
    exact .inr ⟨w.disk, rfl, by rw [hempty, List.append_nil], id⟩
  · rw [if_neg hempty]
    dsimp only
    by_cases hall : (w.disk.fwrite b).1 = b.length
    · rw [if_neg (not_not.mpr hall)]
      obtain ⟨hbytes, hfits⟩ := Disk.fwrite_complete hall
      exact .inr ⟨_, rfl, hbytes, hfits⟩
    · rw [if_pos hall]
      exact .inl ⟨_, _, rfl, Disk.fwrite_short hall, rfl⟩

/-- `flush_frame` moves the open frame to the file, or fails and changes nothing but the
disk. -/
theorem flushFrame_cases :
    (∃ e disk, w.flushFrame = (.error e, { w with disk }) ∧ disk.failed = true ∧
        (w.disk.bytes.length ≤ w.disk.limit → w.disk.bytes.length ≤ disk.limit)) ∨
      (w.frame = [] ∧ w.flushFrame = (.ok (), w)) ∨
      (w.frame ≠ [] ∧ ∃ disk,
        w.disk.Stored (encodeFrameHeader w.offset w.frameIndex w.frame.length ++ w.frame) disk ∧
        w.flushFrame = (.ok (), { w with
          disk
          offset := w.offset + UInt64.ofNat (kFrameHeaderSize + w.frame.length)
          stats := { w.stats with
            bytes := w.offset + UInt64.ofNat (kFrameHeaderSize + w.frame.length)
            frames := w.stats.frames + 1 }
          frameIndex := w.frameIndex + 1
          frame := []
          frameSlot := none })) := by
  by_cases hempty : w.frame = []
  · exact .inr (.inl ⟨hempty, if_pos hempty⟩)
  · unfold flushFrame
    rw [if_neg hempty]
    dsimp only
    obtain ⟨e, disk₁, heq₁, hfailed, hlimit⟩ | ⟨disk₁, heq₁, hstored₁⟩ :=
      w.writeBytes_cases (encodeFrameHeader w.offset w.frameIndex w.frame.length)
    · rw [heq₁]
      exact .inl ⟨e, disk₁, rfl, hfailed, fun hfits => hlimit ▸ hfits⟩
    · rw [heq₁]
      dsimp only
      obtain ⟨e, disk₂, heq₂, hfailed, hlimit⟩ | ⟨disk₂, heq₂, hstored₂⟩ :=
        writeBytes_cases { w with disk := disk₁ } w.frame
      · rw [heq₂]
        refine .inl ⟨e, disk₂, rfl, hfailed, fun hfits => ?_⟩
        have hmore := congrArg List.length hstored₁.bytes
        rw [List.length_append] at hmore
        exact hlimit ▸ (hmore ▸ Nat.le_add_right ..).trans (hstored₁.fits hfits)
      · rw [heq₂]
        exact .inr (.inr ⟨hempty, disk₂, hstored₁.trans hstored₂, rfl⟩)

end Lvx2Writer

/-! ## The invariant of a recording -/

namespace Lvx2

/-- A recording keeps every packet but those of the IMU. -/
def isRecorded (packet : DataPacketView) : Bool :=
  packet.header.dataType ≠ .kImu

/-- What a recording has of a packet from the device `write.1`: the identity of the device,
the packet's clock, time and counters, and its samples.  Cartesian samples are the bytes of
the packet, and spherical ones are converted one by one.  There is nothing of an IMU packet,
and nothing of a device that is not listed. -/
def packageOf (devices : List Lvx2DeviceInfo) (write : ℕ × DataPacketView) : Option Lvx2Package :=
  match devices[write.1]? with
  | none => none
  | some device =>
    if isRecorded write.2 then
      some
        { lidarId := device.lidarId
          lidarType := 0
          timestampType := write.2.header.timeType.raw
          timestampNs := write.2.header.timestampNs
          udpCounter := write.2.header.udpCnt
          dataType :=
            if write.2.header.dataType = .kCartesian16 then .kCartesian16 else .kCartesian32
          frameCounter := write.2.header.frameCnt
          points :=
            if write.2.header.dataType = .kSpherical then
              (List.range (write.2.data.length / sampleSize .kSpherical)).flatMap
                (sphericalToCartesian32 write.2)
            else write.2.data }
    else none

theorem isRecorded_eq (packet : DataPacketView) :
    isRecorded packet = (recordedSamples packet).isSome := by
  unfold isRecorded recordedSamples
  cases packet.header.dataType <;> rfl

/-- The writer makes this package. -/
theorem packageOf_eq (devices : List Lvx2DeviceInfo) (write : ℕ × DataPacketView) :
    packageOf devices write =
      devices[write.1]?.bind fun device => (recordedSamples write.2).map fun samples =>
        recordedPackage device.lidarId write.2 samples.1 samples.2 := by
  unfold packageOf
  cases devices[write.1]? with
  | none => rfl
  | some =>
    unfold isRecorded recordedSamples recordedPackage
    cases write.2.header.dataType <;> rfl

/-- What `write` returns when no file operation fails. -/
def writeResult (devices : List Lvx2DeviceInfo) (write : ℕ × DataPacketView) :
    Except Lvx2Error Bool :=
  if write.1 < devices.length then .ok (isRecorded write.2)
  else .error (invalidArgument "device_index out of range")

/-- Whether `write` counts a packet as ignored. -/
def countsIgnored (devices : List Lvx2DeviceInfo) (write : ℕ × DataPacketView) : Bool :=
  write.1 < devices.length && !isRecorded write.2

end Lvx2

/-- The package of a well-formed packet is valid, with its samples. -/
theorem packageOf_valid {devices : List Lvx2DeviceInfo} {write : ℕ × DataPacketView}
    {package : Lvx2Package} (h : write.2.WellFormed)
    (hpackage : packageOf devices write = some package) :
    package.Valid ∧ package.points.length =
      write.2.header.dotNum.toNat * sampleSize package.dataType := by
  rw [packageOf_eq] at hpackage
  obtain ⟨device, -, hpackage⟩ := Option.bind_eq_some_iff.mp hpackage
  obtain ⟨⟨dataType, points⟩, hsamples, rfl⟩ := Option.map_eq_some_iff.mp hpackage
  obtain ⟨htype, hlength⟩ := recordedSamples_length h hsamples
  refine ⟨⟨htype, ?_, ?_⟩, hlength⟩
  · exact Nat.mod_eq_zero_of_dvd ⟨_, hlength.trans (Nat.mul_comm ..)⟩
  · have hdots := write.2.header.dotNum.toNat_lt
    have hsize : sampleSize dataType ≤ 14 := by
      rcases htype with rfl | rfl <;> decide
    calc points.length = write.2.header.dotNum.toNat * sampleSize dataType := hlength
      _ ≤ 2 ^ 16 * 14 := Nat.mul_le_mul hdots.le hsize
      _ < 2 ^ 32 := by norm_num

/-- An open writer whose file is the chain of `frames`, with the packages `current`
in the open frame. -/
structure Recorded (devices : List Lvx2DeviceInfo) (frameDurationMs : UInt32)
    (frames : List (List Lvx2Package)) (current : List Lvx2Package) (ignored : ℕ)
    (w : Lvx2Writer) : Prop where
  isOpen : w.isOpen = true
  lidarIds : w.lidarIds = devices.map Lvx2DeviceInfo.lidarId
  bytes : w.disk.bytes = encodeFile devices frameDurationMs frames
  fits : w.disk.bytes.length ≤ w.disk.limit
  frame : w.frame = encodeBody current
  nonempty : [] ∉ frames
  offset : w.offset = UInt64.ofNat w.disk.bytes.length
  frameIndex : w.frameIndex = UInt64.ofNat frames.length
  statsBytes : w.stats.bytes = UInt64.ofNat w.disk.bytes.length
  statsFrames : w.stats.frames = frames.length
  statsPackets : w.stats.packets = (frames.flatten ++ current).length
  statsIgnored : w.stats.ignored = ignored

namespace Recorded

variable {devices : List Lvx2DeviceInfo} {frameDurationMs : UInt32}
  {frames : List (List Lvx2Package)} {current : List Lvx2Package} {ignored : ℕ} {w : Lvx2Writer}

theorem encodeBody_eq_nil {packages : List Lvx2Package} :
    encodeBody packages = [] ↔ packages = [] := by
  cases packages with
  | nil => exact iff_of_true rfl rfl
  | cons =>
    refine iff_of_false (fun h => ?_) (List.cons_ne_nil _ _)
    have hlength := congrArg List.length h
    simp [encodeBody, kPackageHeaderSize] at hlength

/-- A call on `w` has failed with its disk.  When it has stored nothing, the recording is as
it was. -/
structure Failed (devices : List Lvx2DeviceInfo) (frameDurationMs : UInt32)
    (frames : List (List Lvx2Package)) (current : List Lvx2Package) (ignored : ℕ)
    (w : Lvx2Writer) {α : Type} (call : Except Lvx2Error α × Lvx2Writer) : Prop where
  error : ∃ e, call.1 = .error e
  failed : call.2.disk.failed = true
  kept : call.2.disk.bytes = w.disk.bytes →
    Recorded devices frameDurationMs frames current ignored call.2

variable (h : Recorded devices frameDurationMs frames current ignored w)

include h

/-- **The open frame moves to the file, or the disk has failed.** -/
theorem flushFrame :
    Failed devices frameDurationMs frames current ignored w w.flushFrame ∨
      (w.flushFrame.1 = .ok () ∧ ∃ frames',
        frames'.flatten = frames.flatten ++ current ∧
          Recorded devices frameDurationMs frames' [] ignored w.flushFrame.2) := by
  obtain ⟨e, disk, heq, hfailed, hlimit⟩ | ⟨hempty, heq⟩ | ⟨hne, disk, hstored, heq⟩ :=
    w.flushFrame_cases
  -- after a failure the invariant is kept only if nothing of the block was stored
  · rw [heq]
    refine .inl ⟨⟨e, rfl⟩, hfailed, fun hbytes => ?_⟩
    have hsame : disk.bytes = w.disk.bytes := hbytes
    refine ⟨h.isOpen, h.lidarIds, hsame.trans h.bytes, ?_, h.frame, h.nonempty, ?_,
      h.frameIndex, ?_, h.statsFrames, h.statsPackets, h.statsIgnored⟩
    · exact hsame ▸ hlimit h.fits
    · exact hsame ▸ h.offset
    · exact hsame ▸ h.statsBytes
  · rw [h.frame, encodeBody_eq_nil] at hempty
    subst hempty
    rw [heq]
    exact .inr ⟨rfl, frames, (List.append_nil _).symm, h⟩
  · have hcurrent : current ≠ [] := fun hnil => hne (by rw [h.frame, hnil]; rfl)
    have hbytes : disk.bytes = encodeFile devices frameDurationMs (frames ++ [current]) := by
      rw [hstored.bytes, encodeFile_concat, ← h.bytes, h.offset, h.frameIndex, h.frame]
      rfl
    have hlength : disk.bytes.length =
        w.disk.bytes.length + (kFrameHeaderSize + w.frame.length) := by
      rw [hstored.bytes, List.length_append, List.length_append, encodeFrameHeader_length]
    have hoffset : w.offset + UInt64.ofNat (kFrameHeaderSize + w.frame.length) =
        UInt64.ofNat disk.bytes.length := by
      rw [h.offset, hlength, UInt64.ofNat_add w.disk.bytes.length]
    rw [heq]
    refine .inr ⟨rfl, frames ++ [current], by simp, ⟨h.isOpen, h.lidarIds, hbytes,
      hstored.fits h.fits, rfl, ?_, hoffset, ?_, hoffset, ?_, ?_, h.statsIgnored⟩⟩
    · simp [h.nonempty, hcurrent.symm]
    · simp [h.frameIndex]
    · simp [h.statsFrames]
    · simp [h.statsPackets]

/-- The time line does not touch the file or the open frame. -/
theorem advanceClock (deviceIndex : ℕ) (ts : UInt64) :
    Recorded devices frameDurationMs frames current ignored (w.advanceClock deviceIndex ts).2 :=
  ⟨h.isOpen, h.lidarIds, h.bytes, h.fits, h.frame, h.nonempty, h.offset, h.frameIndex,
    h.statsBytes, h.statsFrames, h.statsPackets, h.statsIgnored⟩

theorem cutFrame (slot : UInt64) :
    Failed devices frameDurationMs frames current ignored w (w.cutFrame slot) ∨
      ((w.cutFrame slot).1 = .ok () ∧ ∃ frames' current',
        frames'.flatten ++ current' = frames.flatten ++ current ∧
          Recorded devices frameDurationMs frames' current' ignored (w.cutFrame slot).2) := by
  unfold Lvx2Writer.cutFrame
  split
  · split_ifs
    · obtain hfailed | ⟨hok, frames', hflat, hrecorded⟩ := h.flushFrame
      · exact .inl hfailed
      · exact .inr ⟨hok, frames', [], by rw [List.append_nil, hflat], hrecorded⟩
    · exact .inr ⟨rfl, frames, current, rfl, h⟩
  · exact .inr ⟨rfl, frames, current, rfl, h⟩

theorem addPackage (slot : UInt64) (package : Lvx2Package) :
    Recorded devices frameDurationMs frames (current ++ [package]) ignored
      (w.addPackage slot package) := by
  refine ⟨h.isOpen, h.lidarIds, h.bytes, h.fits, ?_, h.nonempty, h.offset, h.frameIndex,
    h.statsBytes, h.statsFrames, ?_, h.statsIgnored⟩
  · simp [Lvx2Writer.addPackage, h.frame, encodeBody]
  · simp [Lvx2Writer.addPackage, h.statsPackets, Nat.add_assoc]

/-- **A packet is recorded, or the disk has failed.** -/
theorem write (deviceIndex : ℕ) (packet : DataPacketView) :
    Failed devices frameDurationMs frames current ignored w (w.write deviceIndex packet) ∨
      ((w.write deviceIndex packet).1 = writeResult devices (deviceIndex, packet) ∧
        ∃ frames' current', frames'.flatten ++ current' =
            frames.flatten ++ current ++ (packageOf devices (deviceIndex, packet)).toList ∧
          Recorded devices frameDurationMs frames' current'
            (ignored + if countsIgnored devices (deviceIndex, packet) then 1 else 0)
            (w.write deviceIndex packet).2) := by
  have hopen : ¬w.isOpen = false := by
    rw [h.isOpen]
    decide
  have hlength : w.lidarIds.length = devices.length := by
    rw [h.lidarIds, List.length_map]
  unfold Lvx2Writer.write writeResult countsIgnored
  rw [if_neg hopen, hlength, packageOf_eq, isRecorded_eq]
  by_cases hlisted : deviceIndex < devices.length
  · rw [if_neg hlisted.not_ge, if_pos hlisted, List.getElem?_eq_getElem hlisted]
    cases hsamples : recordedSamples packet with
    | none =>
      refine .inr ⟨rfl, frames, current, (List.append_nil _).symm, ⟨h.isOpen, h.lidarIds,
        h.bytes, h.fits, h.frame, h.nonempty, h.offset, h.frameIndex, h.statsBytes,
        h.statsFrames, h.statsPackets, ?_⟩⟩
      simp [hlisted, h.statsIgnored]
    | some samples =>
      -- the open frame is written first when the packet belongs to a later slot
      have hcut := (h.advanceClock deviceIndex packet.header.timestampNs).cutFrame
        (w.advanceClock deviceIndex packet.header.timestampNs).1
      dsimp only
      rcases hresult : Lvx2Writer.cutFrame _ _ with ⟨e | _, w₁⟩
      · rw [hresult] at hcut
        obtain hfailed | ⟨hok, -⟩ := hcut
        · exact .inl ⟨⟨e, rfl⟩, hfailed.failed, hfailed.kept⟩
        · exact absurd hok (by simp)
      · rw [hresult] at hcut
        obtain hfailed | ⟨-, frames', current', hflat, hrecorded⟩ := hcut
        · exact absurd hfailed.error (by simp)
        · dsimp only at hrecorded ⊢
          have hid : w₁.lidarIds.getD deviceIndex 0 = devices[deviceIndex].lidarId := by
            simp [hrecorded.lidarIds, hlisted]
          rw [hid]
          refine .inr ⟨rfl, frames', current' ++ [recordedPackage devices[deviceIndex].lidarId
            packet samples.1 samples.2], ?_, ?_⟩
          · rw [← List.append_assoc, hflat]
            rfl
          · simpa using hrecorded.addPackage _ _
  · have hnone : devices[deviceIndex]? = none :=
      List.getElem?_eq_none (Nat.le_of_not_lt hlisted)
    rw [if_pos (Nat.le_of_not_lt hlisted), if_neg hlisted, hnone, decide_eq_false hlisted]
    exact .inr ⟨rfl, frames, current, (List.append_nil _).symm, h⟩

end Recorded

/-! ## A whole recording -/

section Recording

variable {devices : List Lvx2DeviceInfo} {frameDurationMs : UInt32}

/-- Opening a new writer starts an empty recording, or the disk has failed. -/
theorem recorded_open (disk : Disk) (path : String) (hdevices : devices ≠ [])
    (hcount : devices.length ≤ 255) (hduration : frameDurationMs ≠ 0) :
    ((∃ e, ((Lvx2Writer.new disk).open path devices frameDurationMs).1 = .error e) ∧
        ((Lvx2Writer.new disk).open path devices frameDurationMs).2.disk.failed = true) ∨
      (((Lvx2Writer.new disk).open path devices frameDurationMs).1 = .ok () ∧
        Recorded devices frameDurationMs [] [] 0
          ((Lvx2Writer.new disk).open path devices frameDurationMs).2) := by
  have hargs : ¬(devices = [] ∨ devices.length > 255) := by
    rintro (hempty | hmany)
    · exact hdevices hempty
    · exact hcount.not_gt hmany
  unfold Lvx2Writer.open
  rw [if_neg (by simp [Lvx2Writer.new]), if_neg hargs, if_neg hduration]
  obtain ⟨errno, disk₁, hfopen, hfailed⟩ | ⟨disk₁, hfopen, hempty⟩ := disk.fopen_cases
  · left
    simp only [Lvx2Writer.new, hfopen]
    exact ⟨⟨_, rfl⟩, hfailed⟩
  · simp only [Lvx2Writer.new, hfopen]
    obtain ⟨e, disk₂, heq, hfailed, -⟩ | ⟨disk₂, heq, hstored⟩ :=
      ((Lvx2Writer.new disk).start disk₁ devices frameDurationMs).writeBytes_cases
        (encodeFileHeader devices frameDurationMs)
    · rw [Lvx2Writer.new] at heq
      rw [heq]
      exact .inl ⟨⟨e, rfl⟩, hfailed⟩
    · have hbytes : disk₂.bytes = encodeFile devices frameDurationMs [] := by
        rw [hstored.bytes, encodeFile, encodeFrames, List.append_nil, Lvx2Writer.start, hempty,
          List.nil_append]
      have hlength : (encodeFileHeader devices frameDurationMs).length = disk₂.bytes.length := by
        rw [hbytes, encodeFile, encodeFrames, List.append_nil]
      have hfits : disk₂.bytes.length ≤ disk₂.limit := hstored.fits (by
        rw [Lvx2Writer.start, hempty]
        exact Nat.zero_le _)
      rw [Lvx2Writer.new] at heq
      rw [heq]
      dsimp only
      rw [hlength]
      exact .inr ⟨rfl, ⟨rfl, rfl, hbytes, hfits, rfl, List.not_mem_nil, rfl, rfl, rfl, rfl, rfl,
        rfl⟩⟩

/-- The calls of `write`, when no file operation fails. -/
theorem Recorded.writeAll {frames : List (List Lvx2Package)} {current : List Lvx2Package}
    {ignored : ℕ} {w : Lvx2Writer}
    (h : Recorded devices frameDurationMs frames current ignored w)
    {writes : List (ℕ × DataPacketView)}
    (hdisk : (w.writeAll writes).2.disk.failed = false) :
    (w.writeAll writes).1 = writes.map (writeResult devices) ∧
      ∃ frames' current', frames'.flatten ++ current' =
          frames.flatten ++ current ++ writes.filterMap (packageOf devices) ∧
        Recorded devices frameDurationMs frames' current'
          (ignored + writes.countP (countsIgnored devices)) (w.writeAll writes).2 := by
  induction writes generalizing frames current ignored w with
  | nil => exact ⟨rfl, frames, current, (List.append_nil _).symm, h⟩
  | cons p writes ih =>
    have hrest : ((w.write p.1 p.2).2.writeAll writes).2.disk.failed = false := hdisk
    obtain hfailed | ⟨hresult, frames₁, current₁, hflat₁, hrecorded⟩ := h.write p.1 p.2
    · rw [Lvx2Writer.writeAll_failed writes hfailed.failed] at hrest
      exact absurd hrest (by decide)
    · obtain ⟨hresults, frames₂, current₂, hflat₂, hfinal⟩ := ih hrecorded hrest
      refine ⟨?_, frames₂, current₂, ?_, ?_⟩
      · rw [List.map_cons, ← hresults, ← hresult]
        rfl
      · rw [hflat₂, hflat₁, List.append_assoc]
        congr 1
        cases hpackage : packageOf devices p <;> simp [hpackage]
      · rw [List.countP_cons, Nat.add_comm (writes.countP _), ← Nat.add_assoc]
        exact hfinal

/-- Closing moves the open frame to the file. -/
theorem Recorded.close {frames : List (List Lvx2Package)} {current : List Lvx2Package}
    {ignored : ℕ} {w : Lvx2Writer}
    (h : Recorded devices frameDurationMs frames current ignored w)
    (hdisk : w.close.2.disk.failed = false) :
    w.close.1 = .ok () ∧ w.close.2 = { w.flushFrame.2 with isOpen := false } ∧
      ∃ frames', frames'.flatten = frames.flatten ++ current ∧
        Recorded devices frameDurationMs frames' [] ignored w.flushFrame.2 := by
  have hopen : ¬w.isOpen = false := by
    rw [h.isOpen]
    decide
  have hclose : w.close.2.disk = w.flushFrame.2.disk.fflush.2 := by
    rw [Lvx2Writer.close, if_neg hopen]
  rw [hclose] at hdisk
  have hfflush := Disk.fflush_of_not_failed hdisk
  rw [hfflush] at hdisk
  obtain hfailed | ⟨hok, frames', hflat, hrecorded⟩ := h.flushFrame
  · rw [hfailed.failed] at hdisk
    exact absurd hdisk (by decide)
  · rw [Lvx2Writer.close, if_neg hopen]
    dsimp only
    rw [hfflush, hok]
    exact ⟨rfl, rfl, frames', hflat, hrecorded⟩

/-- **The file of a recording.**  When no file operation fails, every call succeeds
(but for unknown devices), and the file is a chain of non-empty frames that hold, in
order, the packages of the packets written; the statistics count them. -/
theorem recorded_file {disk : Disk} {path : String} (hdevices : devices ≠ [])
    (hcount : devices.length ≤ 255) (hduration : frameDurationMs ≠ 0)
    {writes : List (ℕ × DataPacketView)}
    (hdisk : (record disk path devices frameDurationMs writes).writer.disk.failed = false) :
    let r := record disk path devices frameDurationMs writes
    r.opened = .ok () ∧ r.wrote = writes.map (writeResult devices) ∧ r.closed = .ok () ∧
      ∃ frames, r.writer.disk.bytes = encodeFile devices frameDurationMs frames ∧
        r.writer.disk.bytes.length < 2 ^ 63 ∧
        frames.flatten = writes.filterMap (packageOf devices) ∧ [] ∉ frames ∧
        r.writer.stats =
          { packets := (writes.filterMap (packageOf devices)).length
            frames := frames.length
            bytes := UInt64.ofNat r.writer.disk.bytes.length
            ignored := writes.countP (countsIgnored devices) } := by
  intro r
  -- The disk has not failed at the end, so it has not failed before.
  have hwrote : (((Lvx2Writer.new disk).open path devices
      frameDurationMs).2.writeAll writes).2.disk.failed = false := by
    rw [← Bool.not_eq_true]
    intro hfailed
    exact absurd (Lvx2Writer.close_failed hfailed) (Bool.eq_false_iff.mp hdisk)
  obtain ⟨-, hfailed⟩ | ⟨hopened, hstart⟩ := recorded_open disk path hdevices hcount hduration
  · rw [Lvx2Writer.writeAll_failed writes hfailed] at hwrote
    exact absurd hwrote (by decide)
  · obtain ⟨hresults, frames₁, current, hflat₁, hrecorded⟩ := hstart.writeAll hwrote
    obtain ⟨hclosed, hwriter, frames, hflat, hfinal⟩ := hrecorded.close hdisk
    have hstate : r.writer = _ := hwriter
    rw [hstate]
    refine ⟨hopened, hresults, hclosed, frames, hfinal.bytes, ?_, ?_, hfinal.nonempty, ?_⟩
    · exact hfinal.fits.trans_lt (Disk.limit_lt _)
    · rw [hflat, hflat₁]
      rfl
    · have hpackets := hfinal.statsPackets
      have hignored := hfinal.statsIgnored
      rw [List.append_nil, hflat, hflat₁] at hpackets
      rw [Nat.zero_add] at hignored
      rcases hstats : (Lvx2Writer.flushFrame _).2.stats with ⟨packets, nframes, bytes, ignored⟩
      have hframes := hfinal.statsFrames
      have hbytes := hfinal.statsBytes
      rw [hstats] at hpackets hframes hbytes hignored
      dsimp only at hpackets hframes hbytes hignored ⊢
      rw [hpackets, hframes, hbytes, hignored]
      rfl

end Recording

end LivoxMid360
