import LivoxMid360.Lib.Shares
import LivoxMid360.Lvx2.LoopedPlayback
import LivoxMid360.Lvx2.Replay

/-!
# Played devices do not influence each other

A file with several devices is played package by package, all devices through one reader,
one search and one pair of callbacks.  `Play.pass_of_live` says that a pass is one
assembler run for each device, over the packages that go to it.  A package goes to the
first listed device with its `lidar_id`, so what a device gets is determined by the
packages that carry its `lidar_id` (`packagesOf_carrying`), wherever they stand in the file
and whatever stands between them.

* `played_devices_isolated` compares two runs, over two files with the same device list.
* `Accounted` is about one run: every package is counted once, the totals are the sums over
  the devices, and the points are those of the frames delivered.
-/

namespace LivoxMid360

open FrameAssembler Lvx2

/-! ## Whose package it is -/

/-- The first listed device with a `lidar_id`. -/
def firstListed (devices : List Lvx2DeviceInfo) (lidarId : UInt32) : Option ℕ :=
  devices.findIdx? fun d => d.lidarId = lidarId

/-- The packages that carry a `lidar_id`, as they are in the file. -/
def carrying (lidarId : UInt32) (packets : List Lvx2Packet) : List Lvx2Package :=
  (packets.filter fun p => p.lidarId = lidarId).map Lvx2Packet.toLvx2Package

/-- The operation that a package of a file is for the assembler. -/
def pushPackage (p : Lvx2Package) : Op :=
  .push p.toDataPacketView p.timestampNs

/-- The packages of a file that are for the device `i`, of those that carry its
`lidar_id`. -/
def shareOf (devices : List Lvx2DeviceInfo) (i : ℕ) (own : List Lvx2Package) :
    List Lvx2Package :=
  own.filter fun p => firstListed devices p.lidarId = some i

/-- The assembler of a device over its packages. -/
def assembled (policy : FramePolicy) (packages : List Lvx2Package) : Run :=
  run policy .kLidar (packages.map pushPackage ++ [.flush])

section Target

variable {o : Lvx2PlayOptions} {devices : List Lvx2DeviceInfo}

theorem target_of_several (hmany : 1 < devices.length) (p : Lvx2Packet) :
    target o devices p = firstListed devices p.lidarId :=
  if_pos hmany

variable {i : ℕ}

theorem firstListed_lt {lidarId : UInt32} (h : firstListed devices lidarId = some i) :
    i < devices.length :=
  (List.findIdx?_eq_some_iff_findIdx_eq.mp h).1

variable {info : Lvx2DeviceInfo}

/-- What the first listed device with a `lidar_id` has. -/
theorem lidarId_of_firstListed {lidarId : UInt32} (h : firstListed devices lidarId = some i)
    (hinfo : devices[i]? = some info) : info.lidarId = lidarId := by
  obtain ⟨hi, hid, -⟩ := List.findIdx?_eq_some_iff_getElem.mp h
  obtain ⟨-, rfl⟩ := List.getElem?_eq_some_iff.mp hinfo
  exact of_decide_eq_true hid

/-- **What a device gets is determined by the packages that carry its `lidar_id`.** -/
theorem shareOf_carrying (hinfo : devices[i]? = some info) (packets : List Lvx2Packet) :
    shareOf devices i (carrying info.lidarId packets) =
      (packets.filter fun p => firstListed devices p.lidarId = some i).map
        Lvx2Packet.toLvx2Package := by
  rw [shareOf, carrying, List.filter_map, List.filter_filter]
  congr 1
  refine List.filter_congr fun p _ => ?_
  by_cases h : firstListed devices p.lidarId = some i
  · simp [h, lidarId_of_firstListed h hinfo]
  · simp [h]

theorem packagesOf_carrying (hmany : 1 < devices.length) (hinfo : devices[i]? = some info)
    (packets : List Lvx2Packet) :
    (packagesOf o devices i packets).map Lvx2Packet.toLvx2Package =
      shareOf devices i (carrying info.lidarId packets) := by
  rw [shareOf_carrying hinfo, packagesOf]
  simp only [target_of_several hmany]

/-- So is the run of its assembler. -/
theorem deviceRun_carrying (hmany : 1 < devices.length) (hinfo : devices[i]? = some info)
    (packets : List Lvx2Packet) :
    deviceRun o devices i packets =
      assembled o.framePolicy (shareOf devices i (carrying info.lidarId packets)) := by
  rw [← packagesOf_carrying (o := o) hmany hinfo, assembled, List.map_map]
  rfl

end Target

/-! ## Packages that go to no device -/

section Unlisted

variable {o : Lvx2PlayOptions} {cb : PlayCallbacks} {deref : InfoRef → Option Lvx2DeviceInfo}
  {devices : List Lvx2DeviceInfo} {play play' : Play}

variable (hmany : 1 < devices.length) (hlive : Live deref devices play.played)

include hmany hlive

theorem Play.playPacket_unlisted {p : Lvx2Packet} (h : play.playPacket o cb deref p = .ok play') :
    play'.unlistedPackets =
      play.unlistedPackets + if firstListed devices p.lidarId = none then 1 else 0 := by
  have hbyId : play.byId = true := by
    rw [Play.byId, hlive.length_eq]
    exact decide_eq_true hmany
  rw [Play.playPacket_of_deviceOf (hlive.deviceOf_eq o p), target_of_several hmany] at h
  cases hfirst : firstListed devices p.lidarId with
  | none =>
    rw [hfirst] at h
    cases h
    dsimp only
    rw [hbyId]
    rfl
  | some =>
    obtain ⟨dev, hdev, -⟩ := hlive.getElem? (List.getElem?_eq_getElem (firstListed_lt hfirst))
    rw [hfirst, Option.bind_some, hdev] at h
    obtain ⟨dev', events, -, rfl⟩ := Play.playOn_ok h
    rfl

theorem Play.playPackets_unlisted {packets : List Lvx2Packet}
    (h : play.playPackets o cb deref packets = .ok play') :
    play'.unlistedPackets = play.unlistedPackets +
      packets.countP fun p => firstListed devices p.lidarId = none := by
  induction packets generalizing play with
  | nil =>
    cases h
    rfl
  | cons p packets ih =>
    obtain ⟨first, hfirst, hrest⟩ := Play.playPackets_cons_ok.mp h
    have hdevices : devices ≠ [] := List.ne_nil_of_length_pos (by omega)
    obtain ⟨play₁, hplay₁, hlive₁, -⟩ := play.playPacket_of_live o cb hdevices hlive p
    obtain rfl := Except.ok.inj (hplay₁.symm.trans hfirst)
    rw [ih hlive₁ hrest, Play.playPacket_unlisted hmany hlive hfirst, List.countP_cons]
    simp only [decide_eq_true_eq]
    omega

/-- A pass counts the packages that go to no device. -/
theorem Play.pass_unlisted {packets : List Lvx2Packet}
    (h : play.pass o cb deref packets = .ok play') :
    play'.unlistedPackets = play.unlistedPackets +
      packets.countP fun p => firstListed devices p.lidarId = none := by
  obtain ⟨before, hplay, hflush⟩ := Play.pass_ok.mp h
  have hbefore := Play.playPackets_unlisted hmany (hlive.restart o.framePolicy) hplay
  unfold Play.flush at hflush
  split at hflush
  · exact absurd hflush (by simp)
  · cases hflush
    exact hbefore

end Unlisted

/-! ## Frames that are delivered -/

namespace PlayEvent

/-- The device whose frame `on_device_frame` gets. -/
def deliveredFor : PlayEvent → Option ℕ
  | deviceFrame device _ _ => some device
  | _ => none

/-- The points of the frame that `on_device_frame` gets. -/
def deliveredPoints : PlayEvent → ℕ
  | deviceFrame _ _ f => f.points.length
  | _ => 0

end PlayEvent

/-- The points that a device delivers. -/
theorem sum_share_deliveredPoints (log : List PlayEvent) (i : ℕ) :
    ((Shares.share PlayEvent.deliveredFor (some i) log).map PlayEvent.deliveredPoints).sum =
      ((log.filterMap (PlayEvent.deviceFrameOf i)).map fun d => d.2.points.length).sum := by
  induction log with
  | nil => rfl
  | cons event log ih =>
    rw [Shares.sum_share_cons, ih, List.filterMap_cons]
    cases event with
    | deviceFrame device =>
      by_cases h : device = i
      · simp [PlayEvent.deliveredFor, PlayEvent.deliveredPoints, PlayEvent.deviceFrameOf, h]
      · simp [PlayEvent.deliveredFor, PlayEvent.deviceFrameOf, h]
    | dispatched | packet | frame => simp [PlayEvent.deliveredFor, PlayEvent.deviceFrameOf]

/-- What is no delivery has no points. -/
theorem sum_share_none (log : List PlayEvent) :
    ((Shares.share PlayEvent.deliveredFor none log).map PlayEvent.deliveredPoints).sum = 0 := by
  refine List.sum_eq_zero fun n mem => ?_
  obtain ⟨event, hevent, rfl⟩ := List.mem_map.mp mem
  have hnone := of_decide_eq_true (List.mem_filter.mp hevent).2
  cases event with
  | deviceFrame => exact absurd hnone (by simp [PlayEvent.deliveredFor])
  | _ => rfl

/-- **The points delivered are those of the devices.** -/
theorem deliveredPoints_eq {devices : List Lvx2DeviceInfo} {log : List PlayEvent}
    (howned : Owned devices log) :
    (log.map PlayEvent.deliveredPoints).sum = ∑ i ∈ Finset.range devices.length,
      ((log.filterMap (PlayEvent.deviceFrameOf i)).map fun d => d.2.points.length).sum := by
  have howner : ∀ event ∈ log, ∀ i, event.deliveredFor = some i → i < devices.length := by
    intro event mem i h
    cases event with
    | deviceFrame device info f =>
      obtain rfl := Option.some.inj h
      exact (List.getElem?_eq_some_iff.mp (howned device info f mem)).1
    | dispatched | packet | frame => exact absurd h (by simp [PlayEvent.deliveredFor])
  rw [Shares.sum_map_eq PlayEvent.deliveredPoints howner, sum_share_none, Nat.add_zero]
  exact Finset.sum_congr rfl fun i _ => sum_share_deliveredPoints log i

/-! ## Runs -/

/-- A player that has opened a file with several devices, to be played once, without a
filter and with `on_device_frame` set; no package of the file fails to be read. -/
structure Plays (fs : FileSystem) (policy : FramePolicy) (devices : List Lvx2DeviceInfo)
    (packets : List Lvx2Packet) (player : Lvx2Player) : Prop where
  opened : player.Opened fs
  path : player.path ≠ ""
  policy : player.options.framePolicy = policy
  loop : player.options.loop = false
  filter : player.options.lidarId = none
  callback : player.callbacks.deviceFrameCb = true
  listed : player.reader.devices = devices
  several : 1 < devices.length
  reads : ∃ truncated, Reads player.reader.cursor packets (.ok truncated)

/-- What `on_device_frame` has got from the device `i`. -/
def Playback.deviceFrames (i : ℕ) (s : Playback) : List (Lvx2DeviceInfo × Frame) :=
  s.passes.flatten.filterMap (PlayEvent.deviceFrameOf i)

/-- The statistics of a device that has played its packages. -/
def shareStats (policy : FramePolicy) (info : Lvx2DeviceInfo) (packages : List Lvx2Package) :
    Lvx2DevicePlayStats where
  lidarId := info.lidarId
  packets := packages.length
  frames := (assembled policy packages).returned.length
  points := ((assembled policy packages).returned.map fun f => f.points.length).sum
  droppedPackets := (assembled policy packages).state.counters.droppedPackets

/-- What a run leaves of each device, and what it does not give to any. -/
structure PlayedEach (policy : FramePolicy) (devices : List Lvx2DeviceInfo)
    (packets : List Lvx2Packet) (s : Playback) : Prop where
  count : s.stats.devices.length = devices.length
  stats : ∀ i info, devices[i]? = some info → s.stats.devices[i]? =
    some (shareStats policy info (shareOf devices i (carrying info.lidarId packets)))
  frames : ∀ i info, devices[i]? = some info → s.deviceFrames i =
    (assembled policy (shareOf devices i (carrying info.lidarId packets))).returned.map (info, ·)
  owned : Owned devices s.passes.flatten
  unlisted : s.stats.unlistedPackets = packets.countP fun p => firstListed devices p.lidarId = none

section Run

variable {fs : FileSystem} {policy : FramePolicy} {devices : List Lvx2DeviceInfo}
  {packets : List Lvx2Packet} {player : Lvx2Player}

/-- **A run is one assembler run for each device**, over the packages that carry its
`lidar_id` and are for it. -/
theorem Plays.playedEach (h : Plays fs policy devices packets player) {stop : StopToken}
    (hstop : ∀ n, stop.requested n = false) (n : ℕ) :
    ∃ s, player.run fs stop (n + 1) = .inr (.ok s.stats, s) ∧
      PlayedEach policy devices packets s := by
  obtain ⟨truncated, hreads⟩ := h.reads
  have hsome : player.reader.devices ≠ [] := by
    rw [h.listed]
    exact List.ne_nil_of_length_pos (by have := h.several; omega)
  have hinfos : player.infos = devices := (player.infos_of_no_filter h.filter hsome).trans h.listed
  have hlive : Live player.reader.deref player.infos player.start.play.played := player.live_played
  obtain ⟨play, hpass, hafter, -, howned, hdevice⟩ := Play.pass_of_live player.options
    player.callbacks player.infos_ne_nil hlive packets
  obtain ⟨s, hrun, rfl, -, hpasses⟩ := player.run_once stop fs h.path
    (fun hrefuses => absurd hrefuses.2.2 (by simp [h.callback])) h.loop hstop h.opened.isOpen
    hreads hpass n
  rw [hinfos] at hlive hafter howned hdevice
  refine ⟨s, hrun, ?_⟩
  have heach : ∀ i info, devices[i]? = some info → ∃ ref,
      s.play.played[i]? = some (PlayedDevice.flushed (.new ref info player.options.framePolicy)
        (deviceRun player.options devices i packets)
        (packagesOf player.options devices i packets).length) ∧
      Logged player.callbacks i info 0 (deviceRun player.options devices i packets).returned
        s.play.log := by
    intro i info hinfo
    obtain ⟨ref, hdev⟩ := player.played_getElem? (hinfos.symm ▸ hinfo)
    exact ⟨ref, hdevice i info _ hinfo hdev⟩
  -- a device plays its share of the packages that carry its `lidar_id`
  have hrunOf : ∀ i info, devices[i]? = some info →
      deviceRun player.options devices i packets =
        assembled policy (shareOf devices i (carrying info.lidarId packets)) := by
    intro i info hinfo
    rw [deviceRun_carrying h.several hinfo, h.policy]
  refine ⟨?_, ?_, ?_, ?_, ?_⟩
  · rw [Playback.stats, List.length_map]
    exact hafter.length_eq
  · intro i info hinfo
    obtain ⟨ref, hdev, -⟩ := heach i info hinfo
    have hlength := congrArg List.length
      (packagesOf_carrying (o := player.options) h.several hinfo packets)
    rw [List.length_map] at hlength
    rw [Playback.stats, List.getElem?_map, hdev, hrunOf i info hinfo, hlength]
    simp [PlayedDevice.flushed, PlayedDevice.advanced, PlayedDevice.new, shareStats]
  · intro i info hinfo
    obtain ⟨-, -, hlogged⟩ := heach i info hinfo
    have hframes := hlogged.onDeviceFrame
    rw [if_pos h.callback, hrunOf i info hinfo, assembled, renumber_run] at hframes
    rw [Playback.deviceFrames, hpasses, List.flatten_singleton, hframes]
    rfl
  · rw [hpasses, List.flatten_singleton]
    exact howned
  · have hunlisted := Play.pass_unlisted h.several hlive hpass
    rw [Playback.stats, hunlisted]
    exact Nat.zero_add _

/-- Every package is counted once, and the totals are those of the devices and of the
frames delivered. -/
structure Accounted (devices : List Lvx2DeviceInfo) (packets : List Lvx2Packet) (s : Playback) :
    Prop where
  counted : ∀ i < devices.length, ∃ share, s.stats.devices[i]? = some share ∧
    share.packets = packets.countP fun p => firstListed devices p.lidarId = some i
  unlisted : s.stats.unlistedPackets = packets.countP fun p => firstListed devices p.lidarId = none
  once : s.stats.packets + s.stats.unlistedPackets = packets.length
  packets : s.stats.packets = (s.stats.devices.map Lvx2DevicePlayStats.packets).sum
  frames : s.stats.frames = (s.stats.devices.map Lvx2DevicePlayStats.frames).sum
  points : s.stats.points = (s.stats.devices.map Lvx2DevicePlayStats.points).sum
  dropped : s.stats.droppedPackets = (s.stats.devices.map Lvx2DevicePlayStats.droppedPackets).sum
  delivered : s.stats.points = (s.passes.flatten.map PlayEvent.deliveredPoints).sum
  indices : ∀ i < devices.length, (s.deviceFrames i).map (fun d => d.2.index) =
    (List.range (s.deviceFrames i).length).map UInt32.ofNat

theorem length_shareOf {i : ℕ} {info : Lvx2DeviceInfo} (hinfo : devices[i]? = some info)
    (packets : List Lvx2Packet) :
    (shareOf devices i (carrying info.lidarId packets)).length =
      packets.countP fun p => firstListed devices p.lidarId = some i := by
  rw [shareOf_carrying hinfo, List.length_map, List.countP_eq_length_filter]

namespace PlayedEach

variable {s : Playback}

/-- A total over the devices. -/
theorem sum_stats (h : PlayedEach policy devices packets s) (w : Lvx2DevicePlayStats → ℕ)
    {f : ℕ → ℕ} (hf : ∀ i info, devices[i]? = some info →
      w (shareStats policy info (shareOf devices i (carrying info.lidarId packets))) = f i) :
    (s.stats.devices.map w).sum = ∑ i ∈ Finset.range devices.length, f i := by
  refine Shares.sum_eq_of_getElem? (by rw [List.length_map, h.count]) fun i hi => ?_
  have hinfo := List.getElem?_eq_getElem hi
  rw [List.getElem?_map, h.stats i _ hinfo, Option.map_some, hf i _ hinfo]

theorem accounted (h : PlayedEach policy devices packets s) : Accounted devices packets s := by
  have hsums : ∀ w : Lvx2DevicePlayStats → ℕ,
      (s.play.played.map fun dev => w dev.stats).sum = (s.stats.devices.map w).sum := by
    intro w
    rw [Playback.stats, List.map_map]
    rfl
  refine ⟨?_, h.unlisted, ?_, hsums _, hsums _, hsums _, hsums _, ?_, ?_⟩
  · intro i hi
    have hinfo := List.getElem?_eq_getElem hi
    exact ⟨_, h.stats i _ hinfo, length_shareOf hinfo packets⟩
  · have howner : ∀ p ∈ packets, ∀ i, firstListed devices p.lidarId = some i →
        i < devices.length := fun p _ i hfirst => firstListed_lt hfirst
    have hall := Shares.length_eq howner
    have htotal := h.sum_stats Lvx2DevicePlayStats.packets
      (f := fun i => packets.countP fun p : Lvx2Packet => firstListed devices p.lidarId = some i)
      fun i info hinfo => length_shareOf hinfo packets
    have hpackets : s.stats.packets = (s.stats.devices.map Lvx2DevicePlayStats.packets).sum :=
      hsums _
    rw [hpackets, htotal, h.unlisted, hall]
    simp only [Shares.share, List.countP_eq_length_filter]
  · have htotal := h.sum_stats Lvx2DevicePlayStats.points
      (f := fun i => ((s.deviceFrames i).map fun d => d.2.points.length).sum)
      fun i info hinfo => by
        rw [h.frames i info hinfo, List.map_map]
        rfl
    have hpoints : s.stats.points = (s.stats.devices.map Lvx2DevicePlayStats.points).sum :=
      hsums _
    rw [hpoints, htotal, deliveredPoints_eq h.owned]
    rfl
  · intro i hi
    have hinfo := List.getElem?_eq_getElem hi
    have hindices := (conserved_run policy .kLidar
      ((shareOf devices i (carrying devices[i].lidarId packets)).map pushPackage ++
        [.flush])).indices
    rw [h.frames i _ hinfo, List.map_map, List.length_map]
    exact hindices

end PlayedEach

end Run

/-- **Played devices do not influence each other.**  Two files with the same device list
are played with the same policy.  A device for which the packages that carry its `lidar_id`
are the same in both delivers the same frames and has the same statistics.  In each run
every package is counted once, in the first listed device with its `lidar_id` or as
unlisted, the totals are the sums over the devices, and the points are those of the frames
delivered. -/
theorem played_devices_isolated {fs fs' : FileSystem} {policy : FramePolicy}
    {devices : List Lvx2DeviceInfo} {packets packets' : List Lvx2Packet}
    {player player' : Lvx2Player} (h : Plays fs policy devices packets player)
    (h' : Plays fs' policy devices packets' player') {stop stop' : StopToken}
    (hstop : ∀ n, stop.requested n = false) (hstop' : ∀ n, stop'.requested n = false)
    (n n' : ℕ) :
    ∃ s s', player.run fs stop (n + 1) = .inr (.ok s.stats, s) ∧
      player'.run fs' stop' (n' + 1) = .inr (.ok s'.stats, s') ∧
      (∀ i info, devices[i]? = some info →
        carrying info.lidarId packets = carrying info.lidarId packets' →
          s.deviceFrames i = s'.deviceFrames i ∧ s.stats.devices[i]? = s'.stats.devices[i]?) ∧
      Accounted devices packets s ∧ Accounted devices packets' s' := by
  obtain ⟨s, hrun, heach⟩ := h.playedEach hstop n
  obtain ⟨s', hrun', heach'⟩ := h'.playedEach hstop' n'
  refine ⟨s, s', hrun, hrun', ?_, heach.accounted, heach'.accounted⟩
  intro i info hinfo hsame
  constructor
  · rw [heach.frames i info hinfo, heach'.frames i info hinfo, hsame]
  · rw [heach.stats i info hinfo, heach'.stats i info hinfo, hsame]

/-- A package of one point. -/
def pointPackage (lidarId : UInt32) (timestampNs : UInt64) : Lvx2Package where
  lidarId
  timestampNs
  points := List.replicate 14 0

theorem pointPackage_valid (lidarId : UInt32) (timestampNs : UInt64) :
    (pointPackage lidarId timestampNs).Valid where
  type := .inl rfl
  whole := by simp [pointPackage, sampleSize]
  size := by simp [pointPackage]

/-- A file of two devices. -/
def twoDeviceFile (frames : List (List Lvx2Package)) : FileSystem :=
  fun _ => .ok { rest := encodeFile [{ lidarId := 1 }, { lidarId := 2 }] 50 frames }

theorem plays_twoDeviceFile (frames : List (List Lvx2Package))
    (hvalid : ∀ packages ∈ frames, ∀ p ∈ packages, p.Valid)
    (hsize : (encodeFile [{ lidarId := 1 }, { lidarId := 2 }] 50 frames).length < 2 ^ 63) :
    Plays (twoDeviceFile frames) {}
      ([{ lidarId := 1 }, { lidarId := 2 }].map Lvx2DeviceInfo.stored) (numbered 0 frames)
      (devicePlayer.open (twoDeviceFile frames) "two.lvx2").2 := by
  have hfile : twoDeviceFile frames "two.lvx2" =
      .ok { rest := encodeFile [{ lidarId := 1 }, { lidarId := 2 }] 50 frames } := rfl
  have hfilter : devicePlayer.options.lidarId = none := rfl
  have hpath : "two.lvx2" ≠ "" := by decide
  obtain ⟨hok, -, hinfo, -, hreads⟩ := open_whole_encodeFile devicePlayer.reader (by decide) hvalid
    hsize hfile
  have hopen := Lvx2Player.open_of_no_filter hfilter hok
  rw [hopen]
  exact ⟨⟨devicePlayer, "two.lvx2", hopen⟩, hpath, rfl, rfl, rfl, rfl, hinfo, by decide, false,
    hreads⟩

/-- The first device, alone and among packages of the second with a clock of its own. -/
theorem played_devices_isolated_alone :
    carrying 1 (numbered 0 [[pointPackage 1 5]]) =
        carrying 1 (numbered 0 [[pointPackage 2 900, pointPackage 1 5], [pointPackage 2 0]]) ∧
      ∃ s s', (devicePlayer.open (twoDeviceFile [[pointPackage 1 5]]) "two.lvx2").2.run
          (twoDeviceFile [[pointPackage 1 5]]) neverStop 1 = .inr (.ok s.stats, s) ∧
        (devicePlayer.open (twoDeviceFile
            [[pointPackage 2 900, pointPackage 1 5], [pointPackage 2 0]]) "two.lvx2").2.run
          (twoDeviceFile [[pointPackage 2 900, pointPackage 1 5], [pointPackage 2 0]])
          neverStop 1 = .inr (.ok s'.stats, s') ∧
        s.deviceFrames 0 = s'.deviceFrames 0 := by
  have hstop : ∀ n, neverStop.requested n = false := fun _ => rfl
  have hsame : carrying 1 (numbered 0 [[pointPackage 1 5]]) =
      carrying 1 (numbered 0 [[pointPackage 2 900, pointPackage 1 5], [pointPackage 2 0]]) := by
    decide +kernel
  have halone := plays_twoDeviceFile [[pointPackage 1 5]] (by simp [pointPackage_valid])
    (by decide +kernel)
  have hamong := plays_twoDeviceFile
    [[pointPackage 2 900, pointPackage 1 5], [pointPackage 2 0]] (by simp [pointPackage_valid])
    (by decide +kernel)
  obtain ⟨s, s', hrun, hrun', hdevices, -⟩ := played_devices_isolated halone hamong hstop hstop 0 0
  exact ⟨hsame, s, s', hrun, hrun', (hdevices 0 _ rfl hsame).1⟩

end LivoxMid360
