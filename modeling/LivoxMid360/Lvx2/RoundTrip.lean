import LivoxMid360.Lvx2.ReadBack
import LivoxMid360.Lvx2.Writer

/-!
# Recordings read back

The writer leaves a chain of frames in the file (`recorded_file`), and the reader
walks such a chain, whole or cut (`reads_frames`).  Put together:

* `recording_reads_back`: a recording whose file operations all succeed reads back as
  the packages of its packets, in order, in frames numbered without gaps, and the
  writer's statistics are those of the file;
* `truncated_recording_reads_back`: cut at any byte behind the device list, it reads
  back as the packages that lie wholly inside the cut, without an error, and is
  reported as truncated unless the cut is between two frames.
-/

namespace LivoxMid360

open LittleEndian Lvx2

namespace Lvx2

/-! ## The packages of a chain -/

/-- The packages of a chain of frames, in order, with their frame indices. -/
def numbered : ℕ → List (List Lvx2Package) → List Lvx2Packet
  | _, [] => []
  | frameIndex, packages :: frames =>
    packages.map (packetAt (UInt64.ofNat frameIndex)) ++ numbered (frameIndex + 1) frames

theorem placedFrames_map_fst (offset frameIndex : ℕ) (frames : List (List Lvx2Package)) :
    (placedFrames offset frameIndex frames).map Prod.fst = numbered frameIndex frames := by
  induction frames generalizing offset frameIndex with
  | nil => rfl
  | cons packages frames ih =>
    rw [placedFrames, List.map_append, placedBody_map_fst, ih, numbered]

variable {frameIndex : ℕ} {frames : List (List Lvx2Package)}

/-- Every package of a chain ends within it. -/
theorem placedFrames_le {offset : ℕ} {e : Lvx2Packet × ℕ}
    (mem : e ∈ placedFrames offset frameIndex frames) :
    e.2 ≤ offset + (encodeFrames offset frameIndex frames).length := by
  induction frames generalizing offset frameIndex with
  | nil => exact absurd mem List.not_mem_nil
  | cons packages frames ih =>
    rw [encodeFrames, List.length_append, encodeFrame_length]
    rcases List.mem_append.mp mem with mem | mem
    · have hbody := (placedBody_bounds mem).2
      rw [frameSize]
      omega
    · have hrest := ih mem
      omega

theorem numbered_map_package (frameIndex : ℕ) (frames : List (List Lvx2Package)) :
    (numbered frameIndex frames).map Lvx2Packet.toLvx2Package = frames.flatten := by
  induction frames generalizing frameIndex with
  | nil => rfl
  | cons packages frames ih =>
    have hsame : Lvx2Packet.toLvx2Package ∘ packetAt (UInt64.ofNat frameIndex) = id := rfl
    rw [numbered, List.map_append, List.map_map, hsame, List.map_id, ih, List.flatten_cons]

/-- The end of a chain is a boundary. -/
theorem end_mem_boundaries (offset frameIndex : ℕ) (frames : List (List Lvx2Package)) :
    offset + (encodeFrames offset frameIndex frames).length ∈ boundaries offset frames := by
  induction frames generalizing offset frameIndex with
  | nil => exact List.mem_singleton_self _
  | cons packages frames ih =>
    rw [encodeFrames, List.length_append, encodeFrame_length, ← Nat.add_assoc]
    exact List.mem_cons_of_mem _ (ih ..)

theorem length_le_encodeFrames (offset frameIndex : ℕ) (frames : List (List Lvx2Package)) :
    frames.length ≤ (encodeFrames offset frameIndex frames).length := by
  induction frames generalizing offset frameIndex with
  | nil => exact le_rfl
  | cons packages frames ih =>
    have hrest := ih (offset + frameSize packages) (frameIndex + 1)
    have hpositive : 0 < frameSize packages := by
      simp [frameSize, kFrameHeaderSize]
    rw [encodeFrames, List.length_append, encodeFrame_length, List.length_cons]
    omega

/-- The first package of a chain of non-empty frames is in the first frame. -/
theorem numbered_head (h : [] ∉ frames) {p : Lvx2Packet}
    (mem : p ∈ (numbered frameIndex frames).head?) : p.frameIndex = UInt64.ofNat frameIndex := by
  cases frames with
  | nil => exact absurd mem (by simp [numbered])
  | cons packages =>
    cases packages with
    | nil => exact absurd List.mem_cons_self h
    | cons =>
      obtain rfl := Option.some.inj mem
      rfl

/-- **Frame indices rise without gaps** along a chain of non-empty frames. -/
theorem numbered_isChain (h : [] ∉ frames) (hindex : frameIndex + frames.length < 2 ^ 64) :
    (numbered frameIndex frames).IsChain fun p q =>
      q.frameIndex.toNat = p.frameIndex.toNat ∨ q.frameIndex.toNat = p.frameIndex.toNat + 1 := by
  induction frames generalizing frameIndex with
  | nil => exact .nil
  | cons packages frames ih =>
    rw [List.mem_cons, not_or] at h
    rw [List.length_cons] at hindex
    have hword : ∀ n, n < 2 ^ 64 → (UInt64.ofNat n).toNat = n :=
      fun n hn => UInt64.toNat_ofNat_of_lt' hn
    rw [numbered, List.isChain_append]
    refine ⟨?_, ih h.2 (by omega), ?_⟩
    · rw [List.isChain_map]
      exact (List.pairwise_of_forall fun p q => .inl rfl).isChain
    · intro p hp q hq
      obtain ⟨package, -, rfl⟩ := List.mem_map.mp (List.mem_of_mem_getLast? hp)
      right
      rw [numbered_head h.2 hq, hword _ (by omega)]
      exact congrArg (· + 1) (hword _ (by omega)).symm

end Lvx2

/-! ## Recordings -/

/-- A view returned by `parse_data_packet`. -/
def IsParsed (p : DataPacketView) : Prop :=
  ∃ packet verifyCrc, parseDataPacket packet verifyCrc = .ok p

theorem IsParsed.wellFormed {p : DataPacketView} (h : IsParsed p) : p.WellFormed := by
  obtain ⟨packet, verifyCrc, hparse⟩ := h
  exact (parseDataPacket_eq_ok_iff.mp hparse).dot_num

section Recording

variable {disk : Disk} {path : String} {devices : List Lvx2DeviceInfo} {frameDurationMs : UInt32}
  {writes : List (ℕ × DataPacketView)}

variable {frames : List (List Lvx2Package)}

/-- The packages of well-formed packets are valid, however they are cut into frames. -/
theorem frames_valid (hpackets : ∀ p ∈ writes, p.2.WellFormed)
    (hframes : frames.flatten = writes.filterMap (packageOf devices)) :
    ∀ packages ∈ frames, ∀ p ∈ packages, p.Valid := by
  intro packages hpackages p hp
  have mem : p ∈ writes.filterMap (packageOf devices) :=
    hframes ▸ List.mem_flatten_of_mem hpackages hp
  obtain ⟨write, hwrite, hpackage⟩ := List.mem_filterMap.mp mem
  exact (packageOf_valid (hpackets write hwrite) hpackage).1

/-- A packet of a listed device is recorded or counted as ignored. -/
theorem packages_add_ignored (hwrites : ∀ p ∈ writes, p.1 < devices.length) :
    (writes.filterMap (packageOf devices)).length + writes.countP (countsIgnored devices) =
      writes.length := by
  induction writes with
  | nil => rfl
  | cons p writes ih =>
    have hlisted := hwrites p List.mem_cons_self
    have hrest := ih fun q mem => hwrites q (List.mem_cons_of_mem p mem)
    have hdevice : packageOf devices p = (recordedSamples p.2).map fun samples =>
        recordedPackage devices[p.1].lidarId p.2 samples.1 samples.2 := by
      rw [packageOf_eq, List.getElem?_eq_getElem hlisted]
      rfl
    have hignored : countsIgnored devices p = !(recordedSamples p.2).isSome := by
      rw [countsIgnored, decide_eq_true hlisted, Bool.true_and, isRecorded_eq]
    rw [List.filterMap_cons, List.countP_cons, hdevice, hignored]
    cases recordedSamples p.2 with
    | none =>
      simp only [Option.map_none, Option.isSome_none, Bool.not_false, if_true, List.length_cons]
      omega
    | some =>
      simp only [Option.map_some, Option.isSome_some, Bool.not_true, Bool.false_eq_true,
        if_false, List.length_cons]
      omega

theorem map_writeResult (hwrites : ∀ p ∈ writes, p.1 < devices.length) :
    writes.map (writeResult devices) = writes.map fun p => .ok (isRecorded p.2) :=
  List.map_congr_left fun p mem => if_pos (hwrites p mem)

/-- **The file of a chain, cut at any byte behind the device list, reads back.** -/
theorem open_cut_encodeFile (r : Lvx2Reader) {fs : FileSystem} {cut : ℕ}
    (hcount : devices.length ≤ 255) (hvalid : ∀ packages ∈ frames, ∀ p ∈ packages, p.Valid)
    (hsize : (encodeFile devices frameDurationMs frames).length < 2 ^ 63)
    (hheader : (encodeFileHeader devices frameDurationMs).length ≤ cut)
    (hcut : cut ≤ (encodeFile devices frameDurationMs frames).length)
    (hfile : fs path = .ok { rest := (encodeFile devices frameDurationMs frames).take cut }) :
    (r.open fs path).1 = .ok () ∧
      (r.open fs path).2.header.frameDurationMs = frameDurationMs ∧
      (r.open fs path).2.devices = devices.map Lvx2DeviceInfo.stored ∧
      (r.open fs path).2.isOpen = true ∧
      Reads (r.open fs path).2.cursor
        (within cut (placedFrames (encodeFileHeader devices frameDurationMs).length 0 frames))
        (.ok (decide (cut ∉
          boundaries (encodeFileHeader devices frameDurationMs).length frames))) := by
  obtain ⟨n, rfl⟩ := Nat.exists_eq_add_of_le hheader
  rw [encodeFile, List.take_length_add_append] at hfile
  rw [encodeFile, List.length_append] at hsize hcut
  rw [open_encodeFile r hcount hfile]
  refine ⟨rfl, rfl, rfl, rfl, ?_⟩
  exact reads_frames ⟨rfl, rfl, rfl, rfl, rfl⟩ hvalid hsize (by omega) rfl

/-- **The file of a chain, read to its end.** -/
theorem open_whole_encodeFile (r : Lvx2Reader) {fs : FileSystem} (hcount : devices.length ≤ 255)
    (hvalid : ∀ packages ∈ frames, ∀ p ∈ packages, p.Valid)
    (hsize : (encodeFile devices frameDurationMs frames).length < 2 ^ 63)
    (hfile : fs path = .ok { rest := encodeFile devices frameDurationMs frames }) :
    (r.open fs path).1 = .ok () ∧
      (r.open fs path).2.header.frameDurationMs = frameDurationMs ∧
      (r.open fs path).2.devices = devices.map Lvx2DeviceInfo.stored ∧
      (r.open fs path).2.isOpen = true ∧
      Reads (r.open fs path).2.cursor (numbered 0 frames) (.ok false) := by
  -- The whole file is a cut at its end.
  rw [← List.take_length (l := encodeFile devices frameDurationMs frames)] at hfile
  obtain ⟨hok, hms, hinfo, hopen, hreads⟩ := open_cut_encodeFile r hcount hvalid hsize
    (by rw [encodeFile, List.length_append]; exact Nat.le_add_right ..) le_rfl hfile
  have hend : (encodeFile devices frameDurationMs frames).length =
      (encodeFileHeader devices frameDurationMs).length +
        (encodeFrames (encodeFileHeader devices frameDurationMs).length 0 frames).length := by
    rw [encodeFile, List.length_append]
  have hverdict : (encodeFile devices frameDurationMs frames).length ∈
      boundaries (encodeFileHeader devices frameDurationMs).length frames := by
    rw [hend]
    exact end_mem_boundaries ..
  have hall : within (encodeFile devices frameDurationMs frames).length
      (placedFrames (encodeFileHeader devices frameDurationMs).length 0 frames) =
        numbered 0 frames := by
    rw [within_eq_all (fun e mem => hend ▸ placedFrames_le mem), placedFrames_map_fst]
  rw [hall, decide_eq_false (not_not.mpr hverdict)] at hreads
  exact ⟨hok, hms, hinfo, hopen, hreads⟩

/-- **Recordings read back.**  When every file operation succeeds, the reader opens the
file with the frame duration and the devices of the recording, and returns exactly the
packages of the packets written, in order, with frame indices that start at zero and
rise without gaps; then the end of the file, not truncated.  The writer's statistics
are the size of the file, the number of its frames and the number of packets. -/
theorem recording_reads_back (hdevices : devices ≠ []) (hcount : devices.length ≤ 255)
    (hserials : ∀ d ∈ devices, d.SerialsFit) (hduration : frameDurationMs ≠ 0)
    (hwrites : ∀ p ∈ writes, p.1 < devices.length) (hparsed : ∀ p ∈ writes, IsParsed p.2)
    (hdisk : (record disk path devices frameDurationMs writes).writer.disk.failed = false)
    {fs : FileSystem}
    (hfile : fs path =
      .ok { rest := (record disk path devices frameDurationMs writes).writer.disk.bytes })
    (r : Lvx2Reader) :
    let recording := record disk path devices frameDurationMs writes
    let opened := r.open fs path
    recording.opened = .ok () ∧
    recording.wrote = writes.map (fun p => .ok (isRecorded p.2)) ∧
    recording.closed = .ok () ∧
    opened.1 = .ok () ∧ opened.2.header.frameDurationMs = frameDurationMs ∧
    opened.2.devices = devices ∧
    ∃ frames packets,
      recording.writer.disk.bytes = encodeFile devices frameDurationMs frames ∧
      packets.map Lvx2Packet.toLvx2Package = writes.filterMap (packageOf devices) ∧
      opened.2.Yields packets false ∧
      (packets.IsChain fun p q => q.frameIndex.toNat = p.frameIndex.toNat ∨
        q.frameIndex.toNat = p.frameIndex.toNat + 1) ∧
      (∀ p ∈ packets.head?, p.frameIndex = 0) ∧
      recording.writer.stats.bytes.toNat = recording.writer.disk.bytes.length ∧
      recording.writer.stats.frames = frames.length ∧
      recording.writer.stats.packets + recording.writer.stats.ignored = writes.length := by
  intro recording opened
  obtain ⟨hopened, hwrote, hclosed, frames, hbytes, hsize, hflat, hnonempty, hstats⟩ :=
    recorded_file hdevices hcount hduration hdisk
  rw [map_writeResult hwrites] at hwrote
  rw [hbytes] at hfile hsize
  obtain ⟨hok, hms, hinfo, hopen, hreads⟩ := open_whole_encodeFile r hcount
    (frames_valid (fun p mem => (hparsed p mem).wellFormed) hflat) hsize hfile
  have hdevice : devices.map Lvx2DeviceInfo.stored = devices :=
    (List.map_congr_left fun d mem => (hserials d mem).stored_eq).trans (List.map_id devices)
  have hindex : 0 + frames.length < 2 ^ 64 := by
    have hle := length_le_encodeFrames (encodeFileHeader devices frameDurationMs).length 0 frames
    rw [encodeFile, List.length_append] at hsize
    omega
  refine ⟨hopened, hwrote, hclosed, hok, hms, hinfo.trans hdevice, frames, numbered 0 frames,
    hbytes, (numbered_map_package 0 frames).trans hflat, hreads.yields hopen,
    numbered_isChain hnonempty hindex, fun p mem => numbered_head hnonempty mem, ?_, ?_, ?_⟩
  · rw [hstats, hbytes]
    exact UInt64.toNat_ofNat_of_lt' (hsize.trans (by decide))
  · rw [hstats]
  · rw [hstats]
    exact packages_add_ignored hwrites

/-- A data packet with one Cartesian sample. -/
def onePointPacket : List UInt8 :=
  [0, 50, 0, 0, 0, 1, 0, 0, 0, 0, 1, 0] ++ List.replicate 38 0

/-- The view of `onePointPacket`. -/
def onePointView : DataPacketView where
  header := readDataPacketHeader onePointPacket
  data := List.replicate 14 0

theorem isParsed_onePointView : IsParsed onePointView :=
  ⟨onePointPacket, true, rfl⟩

/-- A disk with room for a megabyte. -/
def smallDisk : Disk where
  limit := 2 ^ 20
  limit_lt := by norm_num
  accepts := fun _ => 2 ^ 20

/-- One packet of the first device. -/
def oneWrite : List (ℕ × DataPacketView) :=
  [(0, onePointView)]

/-- The file of a recording, at every path. -/
def fileOf (recording : Recording) : FileSystem :=
  fun _ => .ok { rest := recording.writer.disk.bytes }

/-- The view that `parse_data_packet` has of a packet. -/
def viewOf (packet : List UInt8) : DataPacketView where
  header := readDataPacketHeader packet
  data := packet.drop kDataPacketHeaderSize

/-- A packet with one Cartesian sample, taken at 100 ms. -/
def longPacket : List UInt8 :=
  [0, 50, 0, 10, 0, 1, 0, 7, 0, 3, 1, 1] ++ List.replicate 16 0 ++
    [0x00, 0xE1, 0xF5, 0x05, 0, 0, 0, 0] ++ [1, 0, 0, 0, 2, 0, 0, 0, 3, 0, 0, 0, 4, 5]

/-- A packet with one short Cartesian sample, taken at 250 ms. -/
def shortPacket : List UInt8 :=
  [0, 44, 0, 10, 0, 1, 0, 9, 0, 4, 2, 1] ++ List.replicate 16 0 ++
    [0x80, 0xB2, 0xE6, 0x0E, 0, 0, 0, 0] ++ [1, 0, 2, 0, 3, 0, 4, 5]

/-- An IMU packet. -/
def imuPacket : List UInt8 :=
  [0, 60, 0, 10, 0, 1, 0, 0, 0, 0, 0, 1] ++ List.replicate 24 0 ++ List.replicate 24 7

/-- Two devices. -/
def twoDevices : List Lvx2DeviceInfo :=
  [{ lidarSn := [76, 49], lidarId := 0x2801A8C0, extrinsicEnable := true, yawDeg := 0x42B40000 },
    { lidarSn := [76, 50], hubSn := [72], lidarId := 0x2901A8C0 }]

/-- One packet of each device, and one that is not recorded. -/
def mixedWrites : List (ℕ × DataPacketView) :=
  [(0, viewOf longPacket), (1, viewOf shortPacket), (0, viewOf imuPacket)]

/-- Their recording. -/
def twoDeviceRecording : Recording :=
  record smallDisk "two.lvx2" twoDevices 50 mixedWrites

/-- What a reader gets back of it. -/
def twoPackages : List Lvx2Package :=
  [{ lidarId := 0x2801A8C0, lidarType := 0, timestampType := 1, timestampNs := 100000000,
     udpCounter := 7, dataType := .kCartesian32, frameCounter := 3,
     points := [1, 0, 0, 0, 2, 0, 0, 0, 3, 0, 0, 0, 4, 5] },
    { lidarId := 0x2901A8C0, lidarType := 0, timestampType := 1, timestampNs := 250000000,
      udpCounter := 9, dataType := .kCartesian16, frameCounter := 4,
      points := [1, 0, 2, 0, 3, 0, 4, 5] }]

theorem isParsed_mixedWrites : ∀ p ∈ mixedWrites, IsParsed p.2 := by
  simp only [mixedWrites, List.forall_mem_cons, List.not_mem_nil, false_implies, implies_true,
    and_true]
  exact ⟨⟨longPacket, false, by decide⟩, ⟨shortPacket, false, by decide⟩,
    ⟨imuPacket, false, by decide⟩⟩

theorem packages_mixedWrites : mixedWrites.filterMap (packageOf twoDevices) = twoPackages := by
  decide

theorem disk_twoDeviceRecording : twoDeviceRecording.writer.disk.failed = false := by
  decide +kernel

theorem recording_reads_back_two_devices :
    let opened := Lvx2Reader.open {} (fileOf twoDeviceRecording) "two.lvx2"
    twoDeviceRecording.opened = .ok () ∧
    twoDeviceRecording.wrote = [.ok true, .ok true, .ok false] ∧
    twoDeviceRecording.closed = .ok () ∧
    opened.1 = .ok () ∧ opened.2.header.frameDurationMs = 50 ∧ opened.2.devices = twoDevices ∧
    ∃ frames packets,
      twoDeviceRecording.writer.disk.bytes = encodeFile twoDevices 50 frames ∧
      packets.map Lvx2Packet.toLvx2Package = twoPackages ∧
      opened.2.Yields packets false ∧
      (packets.IsChain fun p q => q.frameIndex.toNat = p.frameIndex.toNat ∨
        q.frameIndex.toNat = p.frameIndex.toNat + 1) ∧
      (∀ p ∈ packets.head?, p.frameIndex = 0) ∧
      twoDeviceRecording.writer.stats.bytes.toNat = twoDeviceRecording.writer.disk.bytes.length ∧
      twoDeviceRecording.writer.stats.frames = frames.length ∧
      twoDeviceRecording.writer.stats.packets + twoDeviceRecording.writer.stats.ignored = 3 := by
  have hserials : ∀ d ∈ twoDevices, d.SerialsFit := by
    simp only [twoDevices, List.forall_mem_cons, List.not_mem_nil, false_implies, implies_true,
      and_true]
    exact ⟨by constructor <;> decide, by constructor <;> decide⟩
  have hdisk := disk_twoDeviceRecording
  have hfile : fileOf twoDeviceRecording "two.lvx2" =
      .ok { rest := twoDeviceRecording.writer.disk.bytes } := rfl
  unfold twoDeviceRecording at hdisk hfile ⊢
  have hback := recording_reads_back (by decide) (by decide) hserials (by decide) (by decide)
    isParsed_mixedWrites hdisk hfile {}
  rw [packages_mixedWrites] at hback
  exact hback

/-- **Cut recordings read back.**  The file of a recording, cut at any byte behind the
device list, opens, and reads back as exactly the packages that end within the cut, in
order and unchanged, never with an error; then the end of the file on every call.  It is
then reported as truncated exactly when the cut is not between two frames. -/
theorem truncated_recording_reads_back (hdevices : devices ≠ [])
    (hcount : devices.length ≤ 255) (hduration : frameDurationMs ≠ 0)
    (hpackets : ∀ p ∈ writes, p.2.WellFormed)
    (hdisk : (record disk path devices frameDurationMs writes).writer.disk.failed = false)
    {cut : ℕ} (hheader : kFileHeaderSize + kDeviceInfoSize * devices.length ≤ cut)
    (hcut : cut ≤ (record disk path devices frameDurationMs writes).writer.disk.bytes.length)
    {fs : FileSystem}
    (hfile : fs path = .ok
      { rest := (record disk path devices frameDurationMs writes).writer.disk.bytes.take cut })
    (r : Lvx2Reader) :
    ∃ frames,
      (record disk path devices frameDurationMs writes).writer.disk.bytes =
        encodeFile devices frameDurationMs frames ∧
      frames.flatten = writes.filterMap (packageOf devices) ∧
      (r.open fs path).1 = .ok () ∧
      (r.open fs path).2.Yields
        (within cut (placedFrames (kFileHeaderSize + kDeviceInfoSize * devices.length) 0 frames))
        (decide (cut ∉
          boundaries (kFileHeaderSize + kDeviceInfoSize * devices.length) frames)) := by
  obtain ⟨-, -, -, frames, hbytes, hsize, hflat, -, -⟩ :=
    recorded_file hdevices hcount hduration hdisk
  rw [hbytes] at hfile hsize hcut
  rw [← encodeFileHeader_length devices frameDurationMs] at hheader ⊢
  obtain ⟨hok, -, -, hopen, hreads⟩ := open_cut_encodeFile r hcount
    (frames_valid hpackets hflat) hsize hheader hcut hfile
  exact ⟨frames, hbytes, hflat, hok, hreads.yields hopen⟩

/-- The file of a recording, cut. -/
def cutFileOf (recording : Recording) (cut : ℕ) : FileSystem :=
  fun _ => .ok { rest := recording.writer.disk.bytes.take cut }

/-- A cut in the second of its two frames. -/
theorem truncated_recording_reads_back_two_devices :
    let opened := Lvx2Reader.open {} (cutFileOf twoDeviceRecording 250) "two.lvx2"
    ∃ frames,
      twoDeviceRecording.writer.disk.bytes = encodeFile twoDevices 50 frames ∧
      frames.flatten = twoPackages ∧ opened.1 = .ok () ∧
      opened.2.Yields (within 250 (placedFrames 155 0 frames))
        (decide (250 ∉ boundaries 155 frames)) := by
  have hcut : 250 ≤ twoDeviceRecording.writer.disk.bytes.length := by decide +kernel
  have hdisk := disk_twoDeviceRecording
  have hfile : cutFileOf twoDeviceRecording 250 "two.lvx2" =
      .ok { rest := twoDeviceRecording.writer.disk.bytes.take 250 } := rfl
  unfold twoDeviceRecording at hdisk hcut hfile ⊢
  have hback := truncated_recording_reads_back (by decide) (by decide) (by decide)
    (fun p mem => (isParsed_mixedWrites p mem).wellFormed) hdisk (by decide) hcut hfile {}
  rw [packages_mixedWrites] at hback
  exact hback

end Recording

end LivoxMid360
