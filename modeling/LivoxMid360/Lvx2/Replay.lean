import LivoxMid360.FrameAssembler.SampleTimes
import LivoxMid360.Lvx2.DevicePlay
import LivoxMid360.Lvx2.RoundTrip

/-!
# Replaying a recording

Packets of several devices arrive interleaved.  Live, each device has its own frame
assembler.  They are also recorded, and the recording is played with the same frame
policy.  The packages of the file have the samples of the packets, but not their
`time_interval`, and IMU packets are not recorded; neither changes where frames are
cut, as long as no frame comes to its 32-bit limit.

`thinned_packages` says what the packages of one device are for its assembler.  With
`open_recording`, which composes the writer, the reader and the player, and `run_alike`,
it gives `replay_gives_live_frames`: per device the same frames, but for the offsets of
the points and the end times.
-/

namespace LivoxMid360

open FrameAssembler Lvx2

/-! ## Packages as packets -/

/-- Cartesian samples are recorded as they are. -/
theorem recordedSamples_eq_self {packet : DataPacketView}
    (htype : packet.header.dataType ≠ .kSpherical) {dataType : DataType} {points : List UInt8}
    (h : recordedSamples packet = some (dataType, points)) :
    dataType = packet.header.dataType ∧ points = packet.data := by
  unfold recordedSamples at h
  cases hpacket : packet.header.dataType with
  | kImu => simp [hpacket] at h
  | kSpherical => exact absurd hpacket htype
  | kCartesian32 | kCartesian16 =>
    rw [hpacket] at h
    cases h
    exact ⟨rfl, rfl⟩

/-- A packet that is recorded has the samples of its package. -/
theorem sameSamples_package {devices : List Lvx2DeviceInfo} {write : ℕ × DataPacketView}
    {package : Lvx2Package} (hformed : write.2.WellFormed)
    (htype : write.2.header.dataType ≠ .kSpherical)
    (hpackage : packageOf devices write = some package) :
    SameSamples write.2 package.toDataPacketView := by
  have hlength := (packageOf_valid hformed hpackage).2
  rw [packageOf_eq] at hpackage
  obtain ⟨device, -, hpackage⟩ := Option.bind_eq_some_iff.mp hpackage
  obtain ⟨⟨dataType, points⟩, hsamples, rfl⟩ := Option.map_eq_some_iff.mp hpackage
  have hsize : 0 < sampleSize dataType := by cases dataType <;> decide
  obtain ⟨htype', hdata⟩ := recordedSamples_eq_self htype hsamples
  dsimp only [recordedPackage] at hlength ⊢
  refine
    { timeInterval := UInt16.le_iff_toNat_le.mpr (Nat.zero_le _)
      dotNum := ?_
      udpCnt := rfl
      frameCnt := rfl
      dataType := htype'
      timeType := rfl
      timestampNs := rfl
      samples := ?_ }
  · show UInt16.ofNat (points.length / sampleSize dataType) = write.2.header.dotNum
    rw [hlength, Nat.mul_div_cancel _ hsize, UInt16.ofNat_toNat]
  · funext i
    simp only [convertPoint, decodeCartesian32, decodeCartesian16, decodeSpherical,
      Lvx2Package.toDataPacketView, htype', hdata]

/-! ## Arrivals -/

/-- A packet as it arrives: from which device, and when. -/
structure Arrival where
  device : ℕ
  packet : DataPacketView
  recvTimeNs : UInt64

/-- The call of `Lvx2Writer::write` that records an arrival. -/
def Arrival.write (a : Arrival) : ℕ × DataPacketView :=
  (a.device, a.packet)

/-- What the assembler of the device `i` gets live. -/
def receivedBy (i : ℕ) (arrivals : List Arrival) : List (DataPacketView × UInt64) :=
  (arrivals.filter fun a => a.device = i).map fun a => (a.packet, a.recvTimeNs)

theorem receivedBy_cons_self (a : Arrival) (arrivals : List Arrival) :
    receivedBy a.device (a :: arrivals) =
      (a.packet, a.recvTimeNs) :: receivedBy a.device arrivals := by
  rw [receivedBy, List.filter_cons_of_pos (by simp)]
  rfl

variable {i : ℕ}

theorem receivedBy_cons_ne {a : Arrival} (h : a.device ≠ i) (arrivals : List Arrival) :
    receivedBy i (a :: arrivals) = receivedBy i arrivals := by
  rw [receivedBy, List.filter_cons_of_neg (by simpa using h)]
  rfl

variable {infos : List Lvx2DeviceInfo}

theorem lidarId_inj (hdistinct : (infos.map Lvx2DeviceInfo.lidarId).Nodup) {j : ℕ}
    {info info' : Lvx2DeviceInfo} (hi : infos[i]? = some info) (hj : infos[j]? = some info')
    (h : info.lidarId = info'.lidarId) : i = j := by
  obtain ⟨hi, rfl⟩ := List.getElem?_eq_some_iff.mp hi
  obtain ⟨hj, rfl⟩ := List.getElem?_eq_some_iff.mp hj
  have hi' : i < (infos.map Lvx2DeviceInfo.lidarId).length := by rwa [List.length_map]
  have hj' : j < (infos.map Lvx2DeviceInfo.lidarId).length := by rwa [List.length_map]
  have hmap : (infos.map Lvx2DeviceInfo.lidarId)[i] = (infos.map Lvx2DeviceInfo.lidarId)[j] := by
    rw [List.getElem_map, List.getElem_map, h]
  exact hdistinct.getElem_inj_iff.mp hmap

/-- What the assembler of a device does live; the partial frame is flushed at the end. -/
def live (policy : FramePolicy) (received : List (DataPacketView × UInt64)) : Run :=
  run policy .kLidar (pushAll received ++ [.flush])

/-- Distinct `lidar_id`s lead every package to the device that sent it. -/
theorem target_eq (hdistinct : (infos.map Lvx2DeviceInfo.lidarId).Nodup) {o : Lvx2PlayOptions}
    (hfilter : o.lidarId = none) {p : Lvx2Packet}
    (hp : (infos.map Lvx2DeviceInfo.lidarId)[i]? = some p.lidarId) : target o infos p = some i := by
  obtain ⟨hi, hid⟩ := List.getElem?_eq_some_iff.mp hp
  rw [List.length_map] at hi
  rw [List.getElem_map] at hid
  unfold target
  split_ifs with hmany hskip
  · rw [List.findIdx?_eq_some_iff_getElem]
    refine ⟨hi, decide_eq_true hid, fun j hj => ?_⟩
    have hne : infos[j].lidarId ≠ infos[i].lidarId := by
      intro heq
      exact absurd (lidarId_inj hdistinct (List.getElem?_eq_getElem (hj.trans hi))
        (List.getElem?_eq_getElem hi) heq) (Nat.ne_of_lt hj)
    rw [← hid]
    simpa using hne
  · rw [hfilter] at hskip
    exact absurd hskip (by simp)
  · exact congrArg some (by omega)

/-- A package has the `lidar_id` of the device that sent it. -/
theorem packageOf_lidarId {devices : List Lvx2DeviceInfo} {write : ℕ × DataPacketView}
    {package : Lvx2Package} (h : packageOf devices write = some package) :
    (devices.map Lvx2DeviceInfo.lidarId)[write.1]? = some package.lidarId := by
  rw [packageOf_eq] at h
  obtain ⟨device, hdevice, h⟩ := Option.bind_eq_some_iff.mp h
  obtain ⟨samples, -, rfl⟩ := Option.map_eq_some_iff.mp h
  rw [List.getElem?_map, hdevice]
  rfl

/-- What a listed device sends and is not recorded, the assembler ignores. -/
theorem isIgnored_of_packageOf {devices : List Lvx2DeviceInfo} {write : ℕ × DataPacketView}
    (hlisted : write.1 < devices.length) (h : packageOf devices write = none) :
    isIgnored write.2.header = true := by
  rw [packageOf_eq, List.getElem?_eq_getElem hlisted, Option.bind_some, Option.map_eq_none_iff,
    recordedSamples] at h
  cases htype : write.2.header.dataType with
  | kImu => simp [isIgnored, htype]
  | kCartesian32 => simp [htype] at h
  | kCartesian16 => simp [htype] at h
  | kSpherical => simp [htype] at h

/-- The packets that the packages of a device are for its assembler. -/
def replayed (packages : List Lvx2Packet) : List (DataPacketView × UInt64) :=
  packages.map fun p => (p.toDataPacketView, p.timestampNs)

theorem pushAll_replayed (packages : List Lvx2Packet) :
    pushAll (replayed packages) = packages.map pushOf := by
  rw [pushAll, replayed, List.map_map]
  rfl

/-- **The packages of a device** have the samples of its packets, in order; what is
missing is ignored by the assembler. -/
theorem thinned_packages {devices : List Lvx2DeviceInfo} {o : Lvx2PlayOptions}
    (hids : infos.map Lvx2DeviceInfo.lidarId = devices.map Lvx2DeviceInfo.lidarId)
    (hdistinct : (devices.map Lvx2DeviceInfo.lidarId).Nodup) (hfilter : o.lidarId = none)
    {arrivals : List Arrival} (hlisted : ∀ a ∈ arrivals, a.device < devices.length)
    (hformed : ∀ a ∈ arrivals, a.packet.WellFormed)
    (htypes : ∀ a ∈ arrivals, a.packet.header.dataType ≠ .kSpherical) {packages : List Lvx2Packet}
    (hpackages : packages.map Lvx2Packet.toLvx2Package =
      (arrivals.map Arrival.write).filterMap (packageOf devices)) (i : ℕ) :
    Thinned (receivedBy i arrivals) (replayed (packagesOf o infos i packages)) := by
  induction arrivals generalizing packages with
  | nil =>
    obtain rfl := List.map_eq_nil_iff.mp hpackages
    exact .nil
  | cons a arrivals ih =>
    have ih' := fun {packages} => @ih
      (fun b mem => hlisted b (List.mem_cons_of_mem a mem))
      (fun b mem => hformed b (List.mem_cons_of_mem a mem))
      (fun b mem => htypes b (List.mem_cons_of_mem a mem)) packages
    have ha := hlisted a List.mem_cons_self
    rw [List.map_cons, List.filterMap_cons] at hpackages
    cases hpackage : packageOf devices a.write with
    -- a packet that was not recorded is one the assembler ignores
    | none =>
      rw [hpackage] at hpackages
      have hthin := ih' hpackages
      by_cases hi : a.device = i
      · subst hi
        rw [receivedBy_cons_self]
        exact .skip (isIgnored_of_packageOf ha hpackage) hthin
      · rw [receivedBy_cons_ne hi]
        exact hthin
    | some =>
      rw [hpackage] at hpackages
      obtain ⟨p, rest, rfl, rfl, hrest⟩ := List.map_eq_cons_iff.mp hpackages
      have hthin := ih' hrest
      have hid := packageOf_lidarId hpackage
      rw [← hids] at hid hdistinct
      have htarget : target o infos p = some a.device := target_eq hdistinct hfilter hid
      by_cases hi : a.device = i
      · subst hi
        rw [receivedBy_cons_self, packagesOf, List.filter_cons_of_pos (by simpa using htarget)]
        exact .keep (sameSamples_package (hformed a List.mem_cons_self)
          (htypes a List.mem_cons_self) hpackage) hthin
      · rw [receivedBy_cons_ne hi, packagesOf,
          List.filter_cons_of_neg (by simpa [htarget] using hi)]
        exact hthin

/-! ## The player on a recording -/

/-- The frames that `on_device_frame` gets for a `lidar_id`. -/
def framesFor (lidarId : UInt32) (log : List PlayEvent) : List Frame :=
  log.filterMap fun
    | .deviceFrame _ info f => if info.lidarId = lidarId then some f else none
    | _ => none

/-- With distinct `lidar_id`s, these are the frames of one device. -/
theorem framesFor_eq {log : List PlayEvent} (howned : Owned infos log)
    (hdistinct : (infos.map Lvx2DeviceInfo.lidarId).Nodup) {info : Lvx2DeviceInfo}
    (hinfo : infos[i]? = some info) :
    framesFor info.lidarId log = (log.filterMap (PlayEvent.deviceFrameOf i)).map Prod.snd := by
  rw [framesFor, List.map_filterMap]
  refine List.filterMap_congr fun event mem => ?_
  cases event with
  | deviceFrame j info' f =>
    have hj := howned j info' f mem
    by_cases hij : j = i
    · subst hij
      obtain rfl := Option.some.inj (hj.symm.trans hinfo)
      simp [PlayEvent.deviceFrameOf]
    · have hne : info'.lidarId ≠ info.lidarId := fun h => hij (lidarId_inj hdistinct hj hinfo h)
      simp [PlayEvent.deviceFrameOf, hij, hne]
  | dispatched => rfl
  | packet => rfl
  | frame => rfl

/-- The frames of a run of an assembler are numbered from zero on already. -/
theorem renumber_run (policy : FramePolicy) (timestamps : TimestampPolicy) (ops : List Op) :
    renumber 0 (run policy timestamps ops).returned = (run policy timestamps ops).returned := by
  have hindices := (conserved_run policy timestamps ops).indices
  refine List.ext_getElem (by simp [renumber]) fun k hk hk' => ?_
  have hindex := congrArg (fun l => l[k]?) hindices
  simp only [List.getElem?_map, List.getElem?_eq_getElem hk', Option.map_some,
    List.getElem?_range hk', Option.some_inj] at hindex
  simp only [renumber, List.getElem_mapIdx, UInt32.zero_add, ← hindex]

section Replay

variable {disk : Disk} {path : String} {devices : List Lvx2DeviceInfo} {frameDurationMs : UInt32}
  {arrivals : List Arrival} {fs : FileSystem} {player : Lvx2Player}

/-- **A recording, opened by a player**: the devices have their `lidar_id`s, and the
packages are those of the packets recorded. -/
theorem open_recording (hdevices : devices ≠ []) (hcount : devices.length ≤ 255)
    (hduration : frameDurationMs ≠ 0) (hformed : ∀ a ∈ arrivals, a.packet.WellFormed)
    (hdisk : (record disk path devices frameDurationMs
      (arrivals.map Arrival.write)).writer.disk.failed = false)
    (hfile : fs path = .ok { rest := (record disk path devices frameDurationMs
      (arrivals.map Arrival.write)).writer.disk.bytes })
    (hfilter : player.options.lidarId = none) :
    ∃ reader packages,
      player.open fs path = (.ok (), { player with path, reader }) ∧
      reader.devices.map Lvx2DeviceInfo.lidarId = devices.map Lvx2DeviceInfo.lidarId ∧
      reader.isOpen = true ∧ Reads reader.cursor packages (.ok false) ∧
      packages.map Lvx2Packet.toLvx2Package =
        (arrivals.map Arrival.write).filterMap (packageOf devices) := by
  obtain ⟨-, -, -, frames, hbytes, hsize, hflat, -, -⟩ :=
    recorded_file hdevices hcount hduration hdisk
  rw [hbytes] at hfile hsize
  have hformed' : ∀ p ∈ arrivals.map Arrival.write, p.2.WellFormed := by
    intro p mem
    obtain ⟨a, ha, rfl⟩ := List.mem_map.mp mem
    exact hformed a ha
  obtain ⟨hok, -, hinfo, hopen, hreads⟩ := open_whole_encodeFile player.reader hcount
    (frames_valid hformed' hflat) hsize hfile
  refine ⟨_, numbered 0 frames, Lvx2Player.open_of_no_filter hfilter hok, ?_, hopen, hreads,
    (numbered_map_package 0 frames).trans hflat⟩
  rw [hinfo, List.map_map]
  rfl

/-- **Recording and replaying gives the live frames.**  Packets of devices with distinct
`lidar_id`s, none spherical, are recorded without a failed file operation, and the
recording is played with the policy of the live assemblers, as fast as possible and to
its end.  If live no packet comes to the 32-bit limit of its frame, `on_device_frame`
gets for each device the frames that its live assembler returns, up to the offsets of
the points and the end times of the frames, and the same packets count as dropped. -/
theorem replay_gives_live_frames (hdevices : devices ≠ []) (hcount : devices.length ≤ 255)
    (hdistinct : (devices.map Lvx2DeviceInfo.lidarId).Nodup) (hduration : frameDurationMs ≠ 0)
    (hlisted : ∀ a ∈ arrivals, a.device < devices.length)
    (hparsed : ∀ a ∈ arrivals, IsParsed a.packet)
    (htypes : ∀ a ∈ arrivals, a.packet.header.dataType ≠ .kSpherical) (policy : FramePolicy)
    (hspan : ∀ i < devices.length,
      SpanAlong { state := .new policy .kLidar } (receivedBy i arrivals))
    (hdisk : (record disk path devices frameDurationMs
      (arrivals.map Arrival.write)).writer.disk.failed = false)
    (hpath : path ≠ "")
    (hfile : fs path = .ok { rest := (record disk path devices frameDurationMs
      (arrivals.map Arrival.write)).writer.disk.bytes })
    (hoptions : player.options = { framePolicy := policy })
    (hcallback : player.callbacks.deviceFrameCb = true) {stop : StopToken}
    (hstop : ∀ n, stop.requested n = false) (n : ℕ) :
    (player.open fs path).1 = .ok () ∧
    ∃ s, (player.open fs path).2.run fs stop (n + 1) = .inr (.ok s.stats, s) ∧
      ∀ i device, devices[i]? = some device →
        (framesFor device.lidarId s.passes.flatten).map Frame.untimed =
          (live policy (receivedBy i arrivals)).returned.map Frame.untimed ∧
        ∃ share, s.stats.devices[i]? = some share ∧ share.lidarId = device.lidarId ∧
          share.droppedPackets =
            (live policy (receivedBy i arrivals)).state.counters.droppedPackets := by
  have hformed : ∀ a ∈ arrivals, a.packet.WellFormed := fun a mem => (hparsed a mem).wellFormed
  have hfilter : player.options.lidarId = none := by rw [hoptions]
  obtain ⟨reader, packages, hopened, hids, hopen, hreads, hpackages⟩ :=
    open_recording hdevices hcount hduration hformed hdisk hfile hfilter
  rw [hopened]
  refine ⟨rfl, ?_⟩
  let opened : Lvx2Player := { player with path, reader }
  have hinfos : opened.infos = reader.devices := by
    refine opened.infos_of_no_filter hfilter fun hnone => hdevices ?_
    have hnil : reader.devices = [] := hnone
    rw [hnil] at hids
    exact List.map_eq_nil_iff.mp hids.symm
  have hlive : Live reader.deref opened.infos opened.start.play.played := opened.live_played
  obtain ⟨play, hpass, -, -, howned, hdevice⟩ := Play.pass_of_live player.options
    player.callbacks opened.infos_ne_nil hlive packages
  obtain ⟨s, hrun, hplay, -, hpasses⟩ := opened.run_once stop fs hpath
    (fun h => absurd h.2.2 (by simp [opened, hcallback])) (by rw [hoptions]) hstop hopen hreads
    hpass n
  refine ⟨s, hrun, fun i device hi => ?_⟩
  -- The info of the device is the one in the file, with the same `lidar_id`.
  have hid := congrArg (fun ids => ids[i]?) hids
  simp only [List.getElem?_map, hi, Option.map_some, Option.map_eq_some_iff] at hid
  obtain ⟨info, hinfo, hlidarId⟩ := hid
  rw [← hinfos] at hinfo
  obtain ⟨ref, hdev⟩ := opened.played_getElem? hinfo
  obtain ⟨hafter, hlogged⟩ := hdevice i info _ hinfo hdev
  -- Its packages have the samples of its packets.
  have hthin := thinned_packages (hinfos.symm ▸ hids) hdistinct hfilter hlisted hformed htypes
    hpackages i
  obtain ⟨hframes, hcounters⟩ := run_alike policy hthin
    (hspan i (List.getElem?_eq_some_iff.mp hi).1)
  have hdeviceRun : deviceRun player.options opened.infos i packages =
      run policy .kLidar (pushAll (replayed (packagesOf player.options opened.infos i packages)) ++
        [.flush]) := by
    rw [deviceRun, pushAll_replayed, hoptions]
  refine ⟨?_, ?_⟩
  · rw [hpasses, List.flatten_singleton, ← hlidarId,
      framesFor_eq howned (by rw [hinfos, hids]; exact hdistinct) hinfo, hlogged.onDeviceFrame,
      if_pos hcallback, live, ← hframes, hdeviceRun]
    simp only [PlayedDevice.new, renumber_run, List.map_map, Function.comp_def]
  · have hshare : s.stats.devices[i]? = some (PlayedDevice.stats (.flushed
        (.new ref info player.options.framePolicy)
        (deviceRun player.options opened.infos i packages)
        (packagesOf player.options opened.infos i packages).length)) := by
      rw [Playback.stats, hplay, List.getElem?_map, hafter]
      rfl
    refine ⟨_, hshare, hlidarId, ?_⟩
    rw [live, ← hcounters, ← hdeviceRun]
    exact Nat.zero_add _

/-- The same packet, twice. -/
def twoArrivals : List Arrival :=
  [⟨0, onePointView, 0⟩, ⟨0, onePointView, 1⟩]

/-- A player with `on_device_frame` set. -/
def devicePlayer : Lvx2Player where
  callbacks := { deviceFrameCb := true }

/-- A token that nobody stops. -/
def neverStop : StopToken where
  requested := fun _ => false
  stays := fun _ h => h

theorem replay_gives_live_frames_two_packets : (record smallDisk "two.lvx2" [{}] 50
      (twoArrivals.map Arrival.write)).writer.disk.failed = false ∧
    ∃ s, (devicePlayer.open (fileOf (record smallDisk "two.lvx2" [{}] 50
        (twoArrivals.map Arrival.write))) "two.lvx2").2.run
        (fileOf (record smallDisk "two.lvx2" [{}] 50 (twoArrivals.map Arrival.write)))
        neverStop 1 = .inr (.ok s.stats, s) ∧
      (framesFor 0 s.passes.flatten).map Frame.untimed =
        (live {} [(onePointView, 0), (onePointView, 1)]).returned.map Frame.untimed := by
  have hdisk : (record smallDisk "two.lvx2" [{}] 50
      (twoArrivals.map Arrival.write)).writer.disk.failed = false := by
    decide +kernel
  have hpackets : ∀ a ∈ twoArrivals, a.device = 0 ∧ a.packet = onePointView := by
    intro a mem
    simp only [twoArrivals, List.mem_cons, List.not_mem_nil, or_false] at mem
    rcases mem with rfl | rfl <;> exact ⟨rfl, rfl⟩
  -- Both packets are at time zero, and their samples too.
  have hspan : ∀ i < [({} : Lvx2DeviceInfo)].length,
      SpanAlong { state := .new {} .kLidar } (receivedBy i twoArrivals) := by
    intro i _ before p after hsplit _ _ _
    have mem : p ∈ receivedBy i twoArrivals := hsplit ▸ by simp
    obtain ⟨a, ha, rfl⟩ := List.mem_map.mp mem
    rw [(hpackets a (List.mem_filter.mp ha).1).2]
    have hzero : onePointView.header.timestampNs.toNat = 0 ∧
        onePointView.header.timeInterval.toNat = 0 := by decide
    dsimp only
    omega
  have hfile : fileOf (record smallDisk "two.lvx2" [{}] 50 (twoArrivals.map Arrival.write))
      "two.lvx2" = .ok { rest := (record smallDisk "two.lvx2" [{}] 50
        (twoArrivals.map Arrival.write)).writer.disk.bytes } := rfl
  have hoptions : devicePlayer.options = { framePolicy := {} } := rfl
  have hstop : ∀ n, neverStop.requested n = false := fun _ => rfl
  obtain ⟨-, s, hrun, hframes⟩ := replay_gives_live_frames (by decide) (by decide) (by decide)
    (by decide) (fun a mem => by rw [(hpackets a mem).1]; decide)
    (fun a mem => (hpackets a mem).2 ▸ isParsed_onePointView)
    (fun a mem => by rw [(hpackets a mem).2]; decide) {} hspan hdisk (by decide) hfile hoptions
    rfl hstop 0
  exact ⟨hdisk, s, hrun, (hframes 0 {} rfl).1⟩

end Replay

end LivoxMid360
