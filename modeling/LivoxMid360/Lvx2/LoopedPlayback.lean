import LivoxMid360.Lvx2.DevicePlay
import LivoxMid360.Lvx2.RoundTrip

/-!
# Looped playback

With `loop`, the player opens its reader again at the end of a pass.  That destroys the
device list, and with it what the played devices point to, so from the second pass on
their pointers dangle; only the pointer to the unnamed device of a file without device
info stays good.

Whether such a pointer is followed depends on the package (`FollowsInfo`).  With several
devices every package is a search through the list.  With a single device the info is
only passed to `on_device_frame`, with the frame that the samples of the package end up
in.

* A pass over packages that follow no pointer does not depend on the pointers at all
  (`Play.playPackets_congr`, `Play.flush_congr`), so it is the pass that good pointers
  would give.
* A pass over packages of which one follows a pointer comes to a pointer that dangles
  (`Play.pass_stale`).

Together with `Play.pass_of_live` this says exactly when a looped playback is safe, and
that it then repeats itself: `looped_playback_iff`.
-/

namespace LivoxMid360

open FrameAssembler Lvx2

/-! ## Packages that follow a pointer -/

/-- Playing the package follows the pointer of a device: to find the device, or to
deliver the frame that the samples are in. -/
def FollowsInfo (o : Lvx2PlayOptions) (cb : PlayCallbacks) (infos : List Lvx2DeviceInfo)
    (p : Lvx2Packet) : Prop :=
  1 < infos.length ∨ (cb.deviceFrameCb = true ∧ target o infos p ≠ none ∧
    isIgnored p.toDataPacketView.header = false)

section Device

variable {cb : PlayCallbacks} {deref deref' : InfoRef → Option Lvx2DeviceInfo}
  {device : ℕ} {dev dev' : PlayedDevice} {p : Lvx2Packet} {events : List PlayEvent}

namespace PlayedDevice

/-- Without `on_device_frame`, frames are delivered without a look at the info. -/
theorem deliver_congr (hcb : cb.deviceFrameCb = false) (f : Option Frame) :
    dev.deliver cb deref device f = dev.deliver cb deref' device f := by
  cases f with
  | none => rfl
  | some => simp only [deliver, hcb, Bool.false_eq_true, if_false]

/-- Delivering a frame changes neither the pointer nor the assembler. -/
theorem deliver_ok {f : Option Frame} (h : dev.deliver cb deref device f = .ok (dev', events)) :
    dev'.info = dev.info ∧ dev'.assembler = dev.assembler := by
  cases f with
  | none =>
    cases h
    exact ⟨rfl, rfl⟩
  | some f =>
    have hsame : (dev.counted { f with index := dev.nextIndex }).info = dev.info := rfl
    cases hcb : cb.deviceFrameCb with
    | false =>
      simp only [deliver, hcb, Bool.false_eq_true, if_false] at h
      cases h
      exact ⟨rfl, rfl⟩
    | true =>
      cases hinfo : deref dev.info with
      | none => simp [deliver, hcb, hsame, hinfo] at h
      | some =>
        simp only [deliver, hcb, if_true, hsame, hinfo] at h
        cases h
        exact ⟨rfl, rfl⟩

/-- A package that is played moves the assembler on, and keeps the pointer. -/
theorem playPacket_ok (h : dev.playPacket cb deref device p = .ok (dev', events)) :
    dev'.info = dev.info ∧
      dev'.assembler = (dev.assembler.push p.toDataPacketView p.timestampNs).2 := by
  unfold playPacket at h
  dsimp only at h
  cases hdeliver : deliver cb deref device _ _ with
  | error =>
    rw [hdeliver] at h
    exact absurd h (by simp [Except.map])
  | ok =>
    rw [hdeliver] at h
    cases h
    exact deliver_ok hdeliver

/-- A package without samples is counted, and that is all. -/
theorem playPacket_ignored (h : isIgnored p.toDataPacketView.header = true) :
    dev.playPacket cb deref device p =
      .ok ({ dev with stats := { dev.stats with packets := dev.stats.packets + 1 } },
        packetEvents cb device p ++ []) := by
  unfold playPacket
  dsimp only
  rw [push_ignored h]
  rfl

theorem playPacket_congr (hcb : cb.deviceFrameCb = false) :
    dev.playPacket cb deref device p = dev.playPacket cb deref' device p :=
  congrArg (Except.map _) (deliver_congr hcb _)

/-- At the end of a pass without a partial frame, nothing is delivered. -/
theorem flush_congr (h : cb.deviceFrameCb = false ∨ dev.assembler.cur.points = []) :
    dev.flush cb deref device = dev.flush cb deref' device := by
  rcases h with hcb | hempty
  · exact congrArg (Except.map _) (deliver_congr hcb _)
  · have hflush : dev.assembler.flush = (none, dev.assembler) := if_pos hempty
    unfold flush
    rw [hflush]
    rfl

/-- With a partial frame, `on_device_frame` comes to a pointer that dangles. -/
theorem flush_stale (hcb : cb.deviceFrameCb = true) (hstale : deref dev.info = none)
    (hpoints : dev.assembler.cur.points ≠ []) :
    dev.flush cb deref device = .error dev.info := by
  have hflush : dev.assembler.flush =
      (some dev.assembler.takeFrame.1, dev.assembler.takeFrame.2) := if_neg hpoints
  have hdeliver : deliver cb deref device { dev with assembler := dev.assembler.takeFrame.2 }
      (some dev.assembler.takeFrame.1) = .error dev.info := by
    simp only [deliver, hcb, if_true, counted, hstale]
  unfold flush
  rw [hflush]
  exact congrArg (Except.map _) hdeliver

end PlayedDevice

end Device

/-! ## Passes that follow no pointer -/

section Pass

variable {o : Lvx2PlayOptions} {cb : PlayCallbacks}
  {deref deref' : InfoRef → Option Lvx2DeviceInfo} {infos : List Lvx2DeviceInfo}

/-- No device has a frame to deliver to `on_device_frame`. -/
def Quiet (cb : PlayCallbacks) (played : List PlayedDevice) : Prop :=
  cb.deviceFrameCb = false ∨ ∀ dev ∈ played, dev.assembler.cur.points = []

theorem Quiet.restart (cb : PlayCallbacks) (policy : FramePolicy) (play : Play) :
    Quiet cb (play.restart policy).played := by
  refine .inr fun dev mem => ?_
  obtain ⟨dev', -, rfl⟩ := List.mem_map.mp mem
  rfl

variable {play : Play}

/-- With one device, its info is not needed to find it. -/
theorem Play.deviceOf_single (h : play.byId = false) (p : Lvx2Packet) :
    play.deviceOf o deref p = .ok (if o.lidarId.any (p.lidarId != ·) then none
        else play.played.head?.map fun dev => (0, dev)) := by
  rw [Play.deviceOf, if_neg (Bool.eq_false_iff.mp h)]
  split_ifs <;> rfl

variable {p : Lvx2Packet}

theorem target_single (hinfos : ¬1 < infos.length) :
    target o infos p = if o.lidarId.any (p.lidarId != ·) then none else some 0 :=
  if_neg hinfos

/-- A package that follows no pointer is played the same with any pointers. -/
theorem Play.playPacket_congr (deref deref' : InfoRef → Option Lvx2DeviceInfo)
    (hlength : play.played.length = infos.length) (hp : ¬FollowsInfo o cb infos p) :
    play.playPacket o cb deref p = play.playPacket o cb deref' p ∧
      ∀ play', play.playPacket o cb deref' p = .ok play' →
        play'.played.length = infos.length ∧ (Quiet cb play.played → Quiet cb play'.played) := by
  obtain ⟨hinfos, hpacket⟩ := not_or.mp hp
  have hsingle : play.byId = false := by
    rw [Play.byId, hlength]
    exact decide_eq_false hinfos
  rw [target_single hinfos] at hpacket
  rw [Play.playPacket_of_deviceOf (Play.deviceOf_single hsingle p),
    Play.playPacket_of_deviceOf (Play.deviceOf_single hsingle p)]
  by_cases hskip : o.lidarId.any (p.lidarId != ·) = true
  · rw [if_pos hskip]
    refine ⟨rfl, fun play' h => ?_⟩
    cases h
    exact ⟨hlength, id⟩
  · rw [if_neg hskip] at hpacket ⊢
    cases hhead : play.played.head? with
    | none =>
      refine ⟨rfl, fun play' h => ?_⟩
      cases h
      exact ⟨hlength, id⟩
    | some dev =>
      -- the pointer is needed for the callback of a frame, and an ignored package closes none
      have hsame : dev.playPacket cb deref 0 p = dev.playPacket cb deref' 0 p := by
        cases hcb : cb.deviceFrameCb with
        | false => exact PlayedDevice.playPacket_congr hcb
        | true =>
          have hignored : isIgnored p.toDataPacketView.header = true :=
            Bool.of_not_eq_false fun h => hpacket ⟨hcb, by simp, h⟩
          rw [PlayedDevice.playPacket_ignored hignored, PlayedDevice.playPacket_ignored hignored]
      refine ⟨congrArg (Except.map _) hsame, fun play' h => ?_⟩
      obtain ⟨dev', events, hplayed, rfl⟩ := Play.playOn_ok h
      refine ⟨(List.length_set ..).trans hlength, fun hquiet => ?_⟩
      by_cases hcb : cb.deviceFrameCb = false
      · exact .inl hcb
      · right
        intro dev'' mem
        have hempty := hquiet.resolve_left hcb
        rcases List.mem_or_eq_of_mem_set mem with mem | rfl
        · exact hempty dev'' mem
        · have hignored : isIgnored p.toDataPacketView.header = true :=
            Bool.of_not_eq_false fun h => hpacket ⟨Bool.of_not_eq_false hcb, by simp, h⟩
          rw [(PlayedDevice.playPacket_ok hplayed).2, push_ignored hignored]
          exact hempty dev (List.mem_of_head? hhead)

variable {ps : List Lvx2Packet}

/-- **Packages that follow no pointer** are played the same with any pointers. -/
theorem Play.playPackets_congr (deref deref' : InfoRef → Option Lvx2DeviceInfo)
    (hlength : play.played.length = infos.length) (hps : ∀ p ∈ ps, ¬FollowsInfo o cb infos p)
    (hquiet : Quiet cb play.played) :
    play.playPackets o cb deref ps = play.playPackets o cb deref' ps ∧
      ∀ before, play.playPackets o cb deref' ps = .ok before → Quiet cb before.played := by
  induction ps generalizing play with
  | nil =>
    refine ⟨rfl, fun before h => ?_⟩
    cases h
    exact hquiet
  | cons p ps ih =>
    obtain ⟨hsame, hstep⟩ := play.playPacket_congr deref deref' hlength
      (hps p List.mem_cons_self)
    rw [Play.playPackets, Play.playPackets, hsame]
    cases hfirst : play.playPacket o cb deref' p with
    | error => exact ⟨rfl, fun before h => absurd h (by simp)⟩
    | ok first =>
      obtain ⟨hlength', hquiet'⟩ := hstep first hfirst
      exact ih hlength' (fun q mem => hps q (List.mem_cons_of_mem p mem)) (hquiet' hquiet)

theorem flushDevices_congr {played : List PlayedDevice} (hquiet : Quiet cb played) (device : ℕ) :
    flushDevices cb deref device played = flushDevices cb deref' device played := by
  induction played generalizing device with
  | nil => rfl
  | cons dev played ih =>
    have hdev := hquiet.imp_right fun h => h dev List.mem_cons_self
    have hrest := hquiet.imp_right fun h d mem => h d (List.mem_cons_of_mem dev mem)
    rw [flushDevices, flushDevices, PlayedDevice.flush_congr hdev, ih hrest]

theorem Play.flush_congr (hquiet : Quiet cb play.played) :
    play.flush cb deref = play.flush cb deref' := by
  rw [Play.flush, Play.flush, flushDevices_congr hquiet]

/-! ## Passes that follow a pointer -/

/-- A package on a single device: the pointer stays, and samples leave a partial frame. -/
theorem Play.playPacket_single (hinfos : ¬1 < infos.length) {first : Play} {dev : PlayedDevice}
    (hplayed : play.played = [dev])
    (hready : dev.assembler.drops.have_ = false ∨ dev.assembler.cur.points ≠ [])
    (h : play.playPacket o cb deref p = .ok first) :
    ∃ dev', first.played = [dev'] ∧ dev'.info = dev.info ∧
      (dev'.assembler.drops.have_ = false ∨ dev'.assembler.cur.points ≠ []) ∧
      (dev.assembler.cur.points ≠ [] ∨
        (target o infos p ≠ none ∧ isIgnored p.toDataPacketView.header = false) →
          dev'.assembler.cur.points ≠ []) := by
  have hsingle : play.byId = false := by rw [Play.byId, hplayed]; rfl
  rw [Play.playPacket_of_deviceOf (Play.deviceOf_single hsingle p), hplayed] at h
  rw [target_single hinfos]
  by_cases hskip : o.lidarId.any (p.lidarId != ·) = true
  · rw [if_pos hskip] at h ⊢
    cases h
    exact ⟨dev, hplayed, rfl, hready, fun hpoints => hpoints.resolve_right (by simp)⟩
  · rw [if_neg hskip] at h ⊢
    obtain ⟨dev', events, hdev, rfl⟩ := Play.playOn_ok h
    obtain ⟨hinfo, hassembler⟩ := PlayedDevice.playPacket_ok hdev
    refine ⟨dev', by rw [hplayed]; rfl, hinfo, ?_⟩
    cases hignored : isIgnored p.toDataPacketView.header with
    | true =>
      rw [push_ignored hignored] at hassembler
      rw [hassembler]
      exact ⟨hready, fun hpoints => hpoints.resolve_right (by simp)⟩
    | false =>
      have hpoints := push_points_ne_nil hignored hready p.timestampNs
      rw [hassembler]
      exact ⟨.inr hpoints, fun _ => hpoints⟩

/-- Packages on a single device. -/
theorem Play.playPackets_single (hinfos : ¬1 < infos.length) {before : Play} {dev : PlayedDevice}
    (hplayed : play.played = [dev])
    (hready : dev.assembler.drops.have_ = false ∨ dev.assembler.cur.points ≠ [])
    (h : play.playPackets o cb deref ps = .ok before) :
    ∃ dev', before.played = [dev'] ∧ dev'.info = dev.info ∧
      (dev.assembler.cur.points ≠ [] ∨
        (∃ p ∈ ps, target o infos p ≠ none ∧ isIgnored p.toDataPacketView.header = false) →
          dev'.assembler.cur.points ≠ []) := by
  induction ps generalizing play dev with
  | nil =>
    cases h
    exact ⟨dev, hplayed, rfl, fun hpoints => hpoints.resolve_right (by simp)⟩
  | cons p ps ih =>
    obtain ⟨first, hfirst, hrest⟩ := Play.playPackets_cons_ok.mp h
    obtain ⟨dev₁, hplayed₁, hinfo₁, hready₁, hpoints₁⟩ :=
      Play.playPacket_single hinfos hplayed hready hfirst
    obtain ⟨dev', hplayed', hinfo', hpoints'⟩ := ih hplayed₁ hready₁ hrest
    refine ⟨dev', hplayed', hinfo'.trans hinfo₁, fun hpoints => hpoints' ?_⟩
    rcases hpoints with hpoints | ⟨q, mem, hq⟩
    · exact .inl (hpoints₁ (.inl hpoints))
    · rcases List.mem_cons.mp mem with rfl | mem
      · exact .inl (hpoints₁ (.inr hq))
      · exact .inr ⟨q, mem, hq⟩

/-- With several devices, the search for the device of a package follows a pointer. -/
theorem Play.deviceOf_stale (hbyId : play.byId = true)
    (hstale : ∀ dev ∈ play.played, deref dev.info = none) (p : Lvx2Packet) :
    ∃ ref, play.deviceOf o deref p = .error ref := by
  rw [Play.deviceOf, if_pos hbyId]
  cases hplayed : play.played with
  | nil => simp [Play.byId, hplayed] at hbyId
  | cons dev =>
    have hdev := hstale dev (hplayed ▸ List.mem_cons_self)
    exact ⟨dev.info, by rw [findDevice, hdev]⟩

/-- **A pass over packages of which one follows a pointer**, when all pointers dangle. -/
theorem Play.pass_stale (hlength : play.played.length = infos.length) (hinfos : infos ≠ [])
    (hstale : ∀ dev ∈ play.played, deref dev.info = none) (mem : p ∈ ps)
    (hp : FollowsInfo o cb infos p) : ∃ ref, play.pass o cb deref ps = .error ref := by
  cases hpass : play.pass o cb deref ps with
  | error ref => exact ⟨ref, rfl⟩
  | ok =>
    exfalso
    obtain ⟨before, hplay, hflush⟩ := Play.pass_ok.mp hpass
    have hstale' : ∀ dev ∈ (play.restart o.framePolicy).played, deref dev.info = none := by
      intro dev mem
      obtain ⟨dev', mem', rfl⟩ := List.mem_map.mp mem
      exact hstale dev' mem'
    by_cases hmany : 1 < infos.length
    · -- The search for the first package looks at the first device.
      cases ps with
      | nil => exact absurd mem List.not_mem_nil
      | cons q =>
        obtain ⟨first, hfirst, -⟩ := Play.playPackets_cons_ok.mp hplay
        have hbyId : (play.restart o.framePolicy).byId = true := by
          rw [Play.byId, Play.restart, List.length_map, hlength]
          exact decide_eq_true hmany
        obtain ⟨ref, hsearch⟩ := Play.deviceOf_stale (o := o) hbyId hstale' q
        rw [Play.playPacket, hsearch] at hfirst
        exact absurd hfirst (by simp)
    · -- The frame of the package is delivered at the end of the pass at the latest.
      obtain ⟨hcb, hsent⟩ := hp.resolve_left hmany
      have hone : play.played.length = 1 := by
        have hpos := List.length_pos_iff.mpr hinfos
        omega
      obtain ⟨dev, hdev⟩ := List.length_eq_one_iff.mp hone
      have hrestart : (play.restart o.framePolicy).played =
          [{ dev with assembler := .new o.framePolicy .kLidar }] := by
        rw [Play.restart, hdev]
        rfl
      obtain ⟨dev', hdev', hinfo, hpoints⟩ :=
        Play.playPackets_single hmany hrestart (.inl rfl) hplay
      have hgone : deref dev'.info = none := by
        rw [hinfo]
        exact hstale dev (hdev ▸ List.mem_singleton_self dev)
      rw [Play.flush, hdev', flushDevices,
        PlayedDevice.flush_stale hcb hgone (hpoints (.inr ⟨p, mem, hsent⟩))] at hflush
      exact absurd hflush (by simp)

end Pass

/-! ## What a run leaves behind -/

/-- The log of a pass over `ps`, in which the device `i` delivers `frames i`, numbered
from `start i` on. -/
structure PassLog (o : Lvx2PlayOptions) (cb : PlayCallbacks) (infos : List Lvx2DeviceInfo)
    (ps : List Lvx2Packet) (start : ℕ → UInt32) (frames : ℕ → List Frame)
    (log : List PlayEvent) : Prop where
  dispatched : log.filterMap PlayEvent.dispatch = ps.map fun p => (p, target o infos p)
  owned : Owned infos log
  logged : ∀ i info, infos[i]? = some info → Logged cb i info (start i) (frames i) log

section History

variable (o : Lvx2PlayOptions) (cb : PlayCallbacks) (infos : List Lvx2DeviceInfo)
  (packets : List Lvx2Packet)

/-- The frames of a device in a whole pass. -/
def passFrames (i : ℕ) : List Frame :=
  (deviceRun o infos i packets).returned

/-- The number of the first frame of a device in pass `k`. -/
def passStart (k i : ℕ) : UInt32 :=
  UInt32.ofNat (k * (passFrames o infos packets i).length)

/-- The logs of `loops` whole passes, and of at most one that was not completed. -/
structure History (loops : ℕ) (passes : List (List PlayEvent)) : Prop where
  complete : ∀ k pass, k < loops → passes[k]? = some pass →
    PassLog o cb infos packets (passStart o infos packets k) (passFrames o infos packets) pass
  last : ∀ pass, passes[loops]? = some pass → ∃ n frames,
    PassLog o cb infos (packets.take n) (passStart o infos packets loops) frames pass
  length : loops ≤ passes.length ∧ passes.length ≤ loops + 1

variable {o cb infos packets} {loops : ℕ} {passes : List (List PlayEvent)}

namespace History

theorem nil : History o cb infos packets 0 [] where
  complete := fun k pass hk => absurd hk (Nat.not_lt_zero k)
  last := fun pass h => absurd h (by simp)
  length := ⟨le_rfl, Nat.zero_le _⟩

/-- Another pass, which may not be completed. -/
theorem concat (h : History o cb infos packets loops passes) (hlength : passes.length = loops)
    {n : ℕ} {frames : ℕ → List Frame} {log : List PlayEvent}
    (hlog : PassLog o cb infos (packets.take n) (passStart o infos packets loops) frames log) :
    History o cb infos packets loops (passes ++ [log]) where
  complete := by
    intro k pass hk hpass
    rw [List.getElem?_append_left (by omega)] at hpass
    exact h.complete k pass hk hpass
  last := by
    intro pass hpass
    rw [List.getElem?_append_right (by omega), hlength, Nat.sub_self] at hpass
    cases hpass
    exact ⟨n, frames, hlog⟩
  length := by
    rw [List.length_append, List.length_singleton]
    omega

/-- Another whole pass. -/
theorem concat_complete (h : History o cb infos packets loops passes)
    (hlength : passes.length = loops) {log : List PlayEvent}
    (hlog : PassLog o cb infos packets (passStart o infos packets loops)
      (passFrames o infos packets) log) :
    History o cb infos packets (loops + 1) (passes ++ [log]) where
  complete := by
    intro k pass hk hpass
    rcases Nat.lt_or_eq_of_le (Nat.le_of_lt_succ hk) with hk | rfl
    · rw [List.getElem?_append_left (by omega)] at hpass
      exact h.complete k pass hk hpass
    · rw [List.getElem?_append_right (by omega), hlength, Nat.sub_self] at hpass
      cases hpass
      exact hlog
  last := by
    intro pass hpass
    rw [List.getElem?_eq_none (by simp [hlength])] at hpass
    exact absurd hpass (by simp)
  length := by
    rw [List.length_append, List.length_singleton]
    omega

end History

end History

/-! ## Pass after pass -/

/-- Whether pointers are good depends on nothing else of the devices. -/
theorem Live.of_refs {deref : InfoRef → Option Lvx2DeviceInfo} {infos : List Lvx2DeviceInfo}
    {played played' : List PlayedDevice} (h : Live deref infos played)
    (hrefs : played'.map PlayedDevice.info = played.map PlayedDevice.info) :
    Live deref infos played' := by
  have hmap : ∀ l : List PlayedDevice, l.map (fun dev => deref dev.info) =
      (l.map PlayedDevice.info).map deref := fun l => (List.map_map).symm
  rw [Live, hmap, hrefs, ← hmap]
  exact h

/-- A run refuses `on_frame` alone when it plays several devices. -/
def Lvx2Player.Refuses (player : Lvx2Player) : Prop :=
  player.start.play.byId ∧ player.callbacks.frameCb ∧ player.callbacks.deviceFrameCb = false

theorem Lvx2Player.run_of_refuses {player : Lvx2Player} (hpath : player.path ≠ "")
    (h : player.Refuses) (fs : FileSystem) (stop : StopToken) (n : ℕ) :
    ∃ e, player.run fs stop n = .inr (.error (.failed e), player.start) := by
  unfold Refuses at h
  rw [Lvx2Player.run, if_neg hpath, if_pos h]
  exact ⟨_, rfl⟩

theorem Lvx2Player.run_of_not_refuses (player : Lvx2Player) (hpath : player.path ≠ "")
    (h : ¬player.Refuses) {fs : FileSystem} {stop : StopToken} {n : ℕ} :
    player.run fs stop n = WhileLoop.turns (player.passTurn fs stop) n player.start := by
  unfold Refuses at h
  rw [Lvx2Player.run, if_neg hpath, if_neg h]

/-- The player has opened its file. -/
def Lvx2Player.Opened (player : Lvx2Player) (fs : FileSystem) : Prop :=
  ∃ (closed : Lvx2Player) (path : String), closed.open fs path = (.ok (), player)

namespace Lvx2Player.Opened

variable {player : Lvx2Player} {fs : FileSystem}

theorem isOpen (h : player.Opened fs) : player.reader.isOpen = true := by
  obtain ⟨closed, path, hopen⟩ := h
  obtain ⟨hok, rfl, -⟩ := Lvx2Player.open_ok hopen
  exact Lvx2Reader.isOpen_open_iff.mpr hok

/-- Opening the file again gives the same reader, but for the device list. -/
theorem reopen (h : player.Opened fs) (r : Lvx2Reader) :
    r.open fs player.path = (.ok (), { player.reader with generation := r.generation + 1 }) := by
  obtain ⟨closed, path, hopen⟩ := h
  obtain ⟨hok, rfl, -⟩ := Lvx2Player.open_ok hopen
  rw [Lvx2Reader.open_eq closed.reader r, hok]

/-- A file with device info has a device to play. -/
theorem listed_ne_nil (h : player.Opened fs) (hdevices : player.reader.devices ≠ []) :
    player.listed.isEmpty = false := by
  obtain ⟨closed, path, hopen⟩ := h
  obtain ⟨-, -, hfilter⟩ := Lvx2Player.open_ok hopen
  have hplayed : ∀ d ∈ player.reader.devices, player.options.lidarId.all (d.lidarId = ·) = true →
      player.listed.isEmpty = false := by
    intro d mem hd
    obtain ⟨i, hi⟩ := List.mem_iff_getElem?.mp mem
    rw [List.isEmpty_eq_false_iff_exists_mem]
    exact ⟨(d, i), List.mem_filter.mpr ⟨List.mk_mem_zipIdx_iff_getElem?.mpr hi, hd⟩⟩
  cases hid : player.options.lidarId with
  | none =>
    obtain ⟨d, mem⟩ := List.exists_mem_of_ne_nil _ hdevices
    exact hplayed d mem (by rw [hid]; rfl)
  | some id =>
    obtain ⟨d, mem, hd⟩ := hfilter id hid
    exact hplayed d mem (by simpa [hid] using hd)

end Lvx2Player.Opened

/-- The second pass of a looped run reads a package that follows a pointer.  The first
pass polls the stop token `packets.length + 3` times, and the second once before its
first package. -/
def Dangles (player : Lvx2Player) (packets : List Lvx2Packet)
    (ending : Except Lvx2Failure Bool) (stop : StopToken) : Prop :=
  ¬player.Refuses ∧ player.reader.devices ≠ [] ∧ passEnding ending = .ok () ∧
    ∃ j p, packets[j]? = some p ∧ stop.requested (packets.length + 4 + j) = false ∧
      FollowsInfo player.options player.callbacks player.infos p

/-- A run between two passes. -/
structure Between (player : Lvx2Player) (packets : List Lvx2Packet)
    (ending : Except Lvx2Failure Bool) (s : Playback) : Prop where
  isOpen : s.reader.isOpen = true
  reads : Reads s.reader.cursor packets ending
  devices : s.reader.devices = player.reader.devices
  generation : s.reader.generation = player.reader.generation + s.loops
  refs : s.play.played.map PlayedDevice.info = player.played.map PlayedDevice.info
  nextIndex : ∀ i dev, s.play.played[i]? = some dev →
    dev.nextIndex = passStart player.options player.infos packets s.loops i
  polls : s.polls = s.loops * (packets.length + 3)
  complete : s.loops ≠ 0 → passEnding ending = .ok ()
  length : s.passes.length = s.loops
  history : History player.options player.callbacks player.infos packets s.loops s.passes

namespace Between

variable {player : Lvx2Player} {packets : List Lvx2Packet} {ending : Except Lvx2Failure Bool}
  {s : Playback} {stop : StopToken}

theorem live (h : Between player packets ending s) :
    Live player.reader.deref player.infos s.play.played :=
  player.live_played.of_refs h.refs

/-- The first packages of a pass are played as with good pointers, unless one of them
follows a pointer that dangles. -/
theorem agrees (h : Between player packets ending s) (hrefuses : ¬player.Refuses)
    (hsafe : ¬Dangles player packets ending stop) :
    ∃ deref, Live deref player.infos s.play.played ∧
      (s.play.restart player.options.framePolicy).playPackets player.options player.callbacks
          s.reader.deref (packets.take (stop.readCount (s.polls + 1) packets.length)) =
        (s.play.restart player.options.framePolicy).playPackets player.options player.callbacks
          deref (packets.take (stop.readCount (s.polls + 1) packets.length)) ∧
      ∀ before, (s.play.restart player.options.framePolicy).playPackets player.options
          player.callbacks deref
          (packets.take (stop.readCount (s.polls + 1) packets.length)) = .ok before →
        before.flush player.callbacks s.reader.deref = before.flush player.callbacks deref := by
  by_cases hfirst : s.loops = 0
  · -- In the first pass the list is the one the pointers were made for.
    have hsame : s.reader.deref = player.reader.deref := by
      funext ref
      cases ref with
      | unnamed => rfl
      | listed generation =>
        simp only [Lvx2Reader.deref, h.generation, hfirst, Nat.add_zero, h.devices]
    exact ⟨s.reader.deref, hsame ▸ h.live, rfl, fun _ _ => rfl⟩
  by_cases hnone : player.listed.isEmpty = true
  · -- The unnamed device is always there.
    have hlive : Live s.reader.deref player.infos player.played := by
      unfold Live Lvx2Player.infos Lvx2Player.played
      rw [if_pos hnone, if_pos hnone]
      rfl
    exact ⟨s.reader.deref, hlive.of_refs h.refs, rfl, fun _ _ => rfl⟩
  · have hdevices : player.reader.devices ≠ [] := by
      intro hnil
      exact hnone (by simp [Lvx2Player.listed, hnil])
    have hlength : (s.play.restart player.options.framePolicy).played.length =
        player.infos.length := by
      rw [Play.restart, List.length_map, h.live.length_eq]
    have hharmless : ∀ p ∈ packets.take (stop.readCount (s.polls + 1) packets.length),
        ¬FollowsInfo player.options player.callbacks player.infos p := by
      intro p mem hp
      obtain ⟨j, hj, rfl⟩ := List.mem_take_iff_getElem.mp mem
      obtain ⟨hread, hj⟩ := Nat.lt_min.mp hj
      have hpoll := ((stop.lt_readCount_iff _ _).mp hread).2
      have hlater : packets.length + 4 + j ≤ s.polls + 1 + j := by
        have hpasses :=
          Nat.mul_le_mul_right (packets.length + 3) (Nat.one_le_iff_ne_zero.mpr hfirst)
        rw [h.polls]
        omega
      refine hsafe ⟨hrefuses, hdevices, h.complete hfirst, j, packets[j],
        List.getElem?_eq_getElem hj, Bool.eq_false_iff.mpr fun hrequested => ?_, hp⟩
      rw [stop.requested_of_le hlater hrequested] at hpoll
      exact absurd hpoll (by decide)
    obtain ⟨hplay, hquiet⟩ := Play.playPackets_congr s.reader.deref player.reader.deref hlength
      hharmless (Quiet.restart player.callbacks player.options.framePolicy s.play)
    refine ⟨player.reader.deref, h.live, hplay, fun before hbefore => ?_⟩
    exact Play.flush_congr (hquiet before hbefore)

variable {deref : InfoRef → Option Lvx2DeviceInfo} {n : ℕ}

section

variable (h : Between player packets ending s) (hlive : Live deref player.infos s.play.played)

include h hlive

/-- What a pass that is over leaves in the log, when it was played with good pointers. -/
theorem passLog {play : Play}
    (hpass : s.play.pass player.options player.callbacks deref (packets.take n) = .ok play) :
    PassLog player.options player.callbacks player.infos (packets.take n)
      (passStart player.options player.infos packets s.loops)
      (passFrames player.options player.infos (packets.take n)) play.log := by
  obtain ⟨play', hpass', -, hdispatch, howned, hdevice⟩ := Play.pass_of_live player.options
    player.callbacks player.infos_ne_nil hlive (packets.take n)
  obtain rfl := Except.ok.inj (hpass.symm.trans hpass')
  refine ⟨hdispatch, howned, fun i info hinfo => ?_⟩
  obtain ⟨dev, hdev, -⟩ := hlive.getElem? hinfo
  rw [← h.nextIndex i dev hdev]
  exact (hdevice i info dev hinfo hdev).2

/-- What a pass leaves in the log that ends with a read error. -/
theorem passLog_of_failed {before : Play}
    (hplay : (s.play.restart player.options.framePolicy).playPackets player.options
      player.callbacks deref (packets.take n) = .ok before) :
    ∃ frames, PassLog player.options player.callbacks player.infos (packets.take n)
      (passStart player.options player.infos packets s.loops) frames before.log := by
  obtain ⟨before', hplay', -, hdispatch, howned, htracks⟩ := Play.playPackets_of_live
    player.options player.callbacks player.infos_ne_nil
    (hlive.restart player.options.framePolicy) (packets.take n)
  obtain rfl := Except.ok.inj (hplay.symm.trans hplay')
  refine ⟨fun i => (Run.exec { state := .new player.options.framePolicy .kLidar }
      ((packagesOf player.options player.infos i (packets.take n)).map pushOf)).returned,
    hdispatch, howned fun i info f mem => absurd mem List.not_mem_nil, fun i info hinfo => ?_⟩
  obtain ⟨dev, hdev, hderef⟩ := hlive.getElem? hinfo
  rw [← h.nextIndex i dev hdev]
  exact (htracks i info { dev with assembler := .new player.options.framePolicy .kLidar } _ _
    hinfo hderef (.restart _ i info _ hdev)).logged

/-- After a pass with good pointers, these are the same and the numbering has gone on. -/
theorem devices_after {play : Play}
    (hpass : s.play.pass player.options player.callbacks deref (packets.take n) = .ok play) :
    play.played.map PlayedDevice.info = player.played.map PlayedDevice.info ∧
      ∀ i dev, play.played[i]? = some dev → dev.nextIndex =
        passStart player.options player.infos packets s.loops i +
          UInt32.ofNat (passFrames player.options player.infos (packets.take n) i).length := by
  obtain ⟨play', hpass', hlive', -, -, hdevice⟩ := Play.pass_of_live player.options
    player.callbacks player.infos_ne_nil hlive (packets.take n)
  obtain rfl := Except.ok.inj (hpass.symm.trans hpass')
  have hafter : ∀ i < player.infos.length, ∃ dev, s.play.played[i]? = some dev ∧
      play.played[i]? = some (dev.flushed (deviceRun player.options player.infos i (packets.take n))
        (packagesOf player.options player.infos i (packets.take n)).length) := by
    intro i hi
    have hinfo := List.getElem?_eq_getElem hi
    obtain ⟨dev, hdev, -⟩ := hlive.getElem? hinfo
    exact ⟨dev, hdev, (hdevice i _ dev hinfo hdev).1⟩
  constructor
  · rw [← h.refs]
    refine List.ext_getElem? fun i => ?_
    rw [List.getElem?_map, List.getElem?_map]
    rcases Nat.lt_or_ge i player.infos.length with hi | hi
    · obtain ⟨dev, hdev, hdev'⟩ := hafter i hi
      rw [hdev, hdev']
      rfl
    · rw [List.getElem?_eq_none (hlive.length_eq.trans_le hi),
        List.getElem?_eq_none (hlive'.length_eq.trans_le hi)]
  · intro i dev' hdev'
    have hi : i < player.infos.length :=
      hlive'.length_eq ▸ (List.getElem?_eq_some_iff.mp hdev').1
    obtain ⟨dev, hdev, hflushed⟩ := hafter i hi
    obtain rfl := Option.some.inj (hdev'.symm.trans hflushed)
    rw [← h.nextIndex i dev hdev]
    rfl

end

/-- A run starts between two passes. -/
theorem start (hopen : player.reader.isOpen = true)
    (hreads : Reads player.reader.cursor packets ending) :
    Between player packets ending player.start where
  isOpen := hopen
  reads := hreads
  devices := rfl
  generation := rfl
  refs := rfl
  nextIndex := by
    intro i dev hdev
    have hi : i < player.infos.length :=
      player.live_played.length_eq ▸ (List.getElem?_eq_some_iff.mp hdev).1
    obtain ⟨ref, hnew⟩ := player.played_getElem? (List.getElem?_eq_getElem hi)
    obtain rfl := Option.some.inj (hdev.symm.trans hnew)
    simp [passStart, Lvx2Player.start, PlayedDevice.new]
  polls := by simp [Lvx2Player.start]
  complete := fun h => absurd rfl h
  length := rfl
  history := .nil

/-- From the second pass on, the pointers to listed devices dangle. -/
theorem stale (h : Between player packets ending s) (hpasses : s.loops ≠ 0)
    (hlisted : player.listed.isEmpty = false) :
    ∀ dev ∈ s.play.played, s.reader.deref dev.info = none := by
  intro dev mem
  have href : dev.info ∈ player.played.map PlayedDevice.info := h.refs ▸ List.mem_map_of_mem mem
  rw [Lvx2Player.played, if_neg (Bool.eq_false_iff.mp hlisted), List.map_map] at href
  obtain ⟨d, -, hd⟩ := List.mem_map.mp href
  rw [← hd, Function.comp_apply, PlayedDevice.new, Lvx2Reader.deref, h.generation,
    if_neg (by omega)]

section Turn

variable {fs : FileSystem} (hopened : player.Opened fs) (hloop : player.options.loop = true)
  (hreads : Reads player.reader.cursor packets ending)

include hopened hloop hreads

/-- After a whole pass that is not stopped, the next one begins. -/
theorem next (h : Between player packets ending s) {deref : InfoRef → Option Lvx2DeviceInfo}
    (hlive : Live deref player.infos s.play.played) {play : Play}
    (hpass : s.play.pass player.options player.callbacks deref packets = .ok play)
    (hcomplete : passEnding ending = .ok ()) (cursor : Lvx2Reader.Cursor)
    (hstop : stop.requested (s.polls + 1 + packets.length + 1) = false) :
    ∃ s', player.afterPass fs stop (Playback.endPass { s with
        polls := s.polls + 1 + packets.length + 1, reader := { s.reader with cursor } } play) =
          .inl s' ∧ s'.loops = s.loops + 1 ∧ Between player packets ending s' := by
  rw [← List.take_length (l := packets)] at hpass
  obtain ⟨hrefs, hindex⟩ := h.devices_after hlive hpass
  have hlog := h.passLog hlive hpass
  rw [List.take_length] at hindex hlog
  refine ⟨_, player.afterPass_of_loop stop fs hstop hloop (hopened.reopen _), rfl, ?_⟩
  exact {
    isOpen := hopened.isOpen
    reads := hreads
    devices := rfl
    generation := by
      simp only [Playback.endPass, h.generation, Nat.add_assoc]
    refs := hrefs
    nextIndex := by
      intro i dev hdev
      rw [hindex i dev hdev]
      simp only [passStart, Playback.endPass, Nat.succ_mul, UInt32.ofNat_add]
    polls := by
      simp only [Playback.endPass, h.polls, Nat.succ_mul]
      omega
    complete := fun _ => hcomplete
    length := by simp [Playback.endPass, h.length]
    history := h.history.concat_complete h.length hlog }

/-- How a run may end. -/
def Ended (player : Lvx2Player) (packets : List Lvx2Packet)
    (r : Except PlayFault Lvx2PlayStats × Playback) : Prop :=
  (∀ ref, r.1 ≠ .error (.danglingInfo ref)) ∧
    History player.options player.callbacks player.infos packets r.2.loops r.2.passes

/-- **One turn of the loop over the passes** follows good pointers only, and leaves a
log of the same packages. -/
theorem turn (h : Between player packets ending s) (hrefuses : ¬player.Refuses)
    (hsafe : ¬Dangles player packets ending stop) :
    Sum.elim (Between player packets ending) (Ended player packets)
      (player.passTurn fs stop s) := by
  cases hstop : stop.requested s.polls with
  | true =>
    rw [Lvx2Player.passTurn, if_pos hstop]
    exact ⟨fun ref => by simp, h.history⟩
  | false =>
    obtain ⟨deref, hlive, hsame, hflush⟩ := h.agrees hrefuses hsafe
    generalize hk : stop.readCount (s.polls + 1) packets.length = k at hsame hflush
    obtain ⟨play, hpass, -⟩ := Play.pass_of_live player.options player.callbacks
      player.infos_ne_nil hlive (packets.take k)
    obtain ⟨before, hplay, hend⟩ := Play.pass_ok.mp hpass
    have hpass' : s.play.pass player.options player.callbacks s.reader.deref (packets.take k) =
        .ok play :=
      Play.pass_ok.mpr ⟨before, hsame.trans hplay, (hflush before hplay).trans hend⟩
    by_cases hending : stop.requested (s.polls + 1 + k) = true ∨ passEnding ending = .ok ()
    · obtain ⟨cursor, hturn⟩ := player.passTurn_of_ok stop fs hstop h.reads h.isOpen hk.symm
        hpass' hending
      rw [hturn]
      cases hlast : stop.requested (s.polls + 1 + k + 1) with
      | true =>
        rw [player.afterPass_of_stop stop fs hlast]
        exact ⟨fun ref => by simp, h.history.concat h.length (h.passLog hlive hpass)⟩
      | false =>
        -- Nothing stopped the pass, so it is a whole one.
        have hall : k = packets.length := by
          rw [← hk]
          exact stop.readCount_eq _ _ (by rw [hk]; exact Nat.le_succ _) hlast
        have hcomplete : passEnding ending = .ok () := hending.resolve_left fun hrequested => by
          rw [stop.requested_of_le (Nat.le_succ _) hrequested] at hlast
          exact absurd hlast (by decide)
        subst hall
        rw [List.take_length] at hpass
        obtain ⟨s', hnext, -, hbetween⟩ :=
          next hopened hloop hreads h hlive hpass hcomplete cursor hlast
        rw [hnext]
        exact hbetween
    · obtain ⟨hread, hfailed⟩ := not_or.mp hending
      cases hresult : ending with
      | ok => exact absurd (by rw [hresult]; rfl) hfailed
      | error =>
        obtain ⟨cursor, hturn⟩ := player.passTurn_of_failed stop fs hstop h.reads h.isOpen
          hk.symm (hsame.trans hplay) (Bool.eq_false_iff.mpr hread) hresult
        obtain ⟨frames, hlog⟩ := h.passLog_of_failed hlive hplay
        rw [hturn]
        exact ⟨fun ref => by simp, h.history.concat h.length hlog⟩

/-- **A run that dangles.**  When the second pass reads a package that follows a pointer,
it follows a pointer to a list that is gone. -/
theorem dangles (hpath : player.path ≠ "") (h : Dangles player packets ending stop) :
    ∃ ref s, player.run fs stop 2 = .inr (.error (.danglingInfo ref), s) := by
  obtain ⟨hrefuses, hdevices, hcomplete, j, p, hp, hstop, hfollows⟩ := h
  have hbefore : ∀ n ≤ packets.length + 4 + j, stop.requested n = false := by
    intro n hn
    refine Bool.eq_false_iff.mpr fun hrequested => ?_
    rw [stop.requested_of_le hn hrequested] at hstop
    exact absurd hstop (by decide)
  -- The first pass follows good pointers.
  have hstart := Between.start hopened.isOpen hreads
  have hall : packets.length = stop.readCount (player.start.polls + 1) packets.length := by
    refine (stop.readCount_eq _ _ (Nat.add_le_add_left (stop.readCount_le _ _) _)
      (hbefore _ ?_)).symm
    simp only [Lvx2Player.start]
    omega
  obtain ⟨play, hpass, -⟩ := Play.pass_of_live player.options player.callbacks
    player.infos_ne_nil hstart.live packets
  obtain ⟨cursor, hfirst⟩ := player.passTurn_of_ok stop fs (s := player.start)
    (hbefore _ (Nat.zero_le _)) hreads hopened.isOpen hall (by rw [List.take_length]; exact hpass)
    (.inr hcomplete)
  obtain ⟨s, hnext, hloops, hbetween⟩ := next hopened hloop hreads hstart hstart.live hpass
    hcomplete cursor (hbefore _ (by simp only [Lvx2Player.start]; omega))
  -- In the second one all of them dangle.
  have hone : s.loops = 1 := hloops
  have hpolls : s.polls = packets.length + 3 := by rw [hbetween.polls, hone, Nat.one_mul]
  have hlive := hbetween.live
  have hread : p ∈ packets.take (stop.readCount (s.polls + 1) packets.length) := by
    obtain ⟨hj, rfl⟩ := List.getElem?_eq_some_iff.mp hp
    refine List.mem_take_iff_getElem.mpr ⟨j, Nat.lt_min.mpr ⟨?_, hj⟩, rfl⟩
    exact (stop.lt_readCount_iff _ _).mpr ⟨hj, hbefore _ (by omega)⟩
  obtain ⟨ref, hstale⟩ := Play.pass_stale hlive.length_eq player.infos_ne_nil
    (hbetween.stale (by omega) (hopened.listed_ne_nil hdevices)) hread hfollows
  obtain ⟨s', hsecond⟩ := player.passTurn_of_dangling stop fs (hbefore _ (by omega))
    hbetween.reads hbetween.isOpen rfl hstale (.inr hcomplete)
  refine ⟨ref, s', ?_⟩
  rw [player.run_of_not_refuses hpath hrefuses, WhileLoop.turns_again (hfirst.trans hnext),
    WhileLoop.turns_done hsecond]

end Turn

end Between

/-! ## Looped playback -/

/-- The frames that `on_frame` gets from the device `i`. -/
def onFrame (i : ℕ) (log : List PlayEvent) : List Frame :=
  log.filterMap (PlayEvent.frameOf i)

/-- The frames that `on_device_frame` gets from the device `i`. -/
def onDeviceFrame (i : ℕ) (log : List PlayEvent) : List Frame :=
  (log.filterMap (PlayEvent.deviceFrameOf i)).map Prod.snd

/-- The frames of pass `k` go on counting where the passes before it have stopped; when
the pass was completed, they are otherwise those of the first pass. -/
def GoesOn (loops k : ℕ) (first frames : List Frame) : Prop :=
  frames = renumber (UInt32.ofNat (k * first.length)) (if k < loops then first else frames)

/-- **Passes that repeat the first one**, of which `loops` were completed.  Each package
goes to the same device, each frame that `on_device_frame` gets comes with the info of
its own device, and the frames are the same but for their numbers, which go on. -/
structure Repeats (infos : List Lvx2DeviceInfo) (loops : ℕ) (passes : List (List PlayEvent)) :
    Prop where
  dispatched : ∀ (first pass : List PlayEvent) (k : ℕ),
    passes[0]? = some first → passes[k]? = some pass →
      pass.filterMap PlayEvent.dispatch <+: first.filterMap PlayEvent.dispatch
  complete : ∀ (first pass : List PlayEvent) (k : ℕ), k < loops →
    passes[0]? = some first → passes[k]? = some pass →
      pass.filterMap PlayEvent.dispatch = first.filterMap PlayEvent.dispatch
  owned : ∀ pass ∈ passes, Owned infos pass
  numbered : ∀ (first pass : List PlayEvent) (k i : ℕ), i < infos.length →
    passes[0]? = some first → passes[k]? = some pass →
      GoesOn loops k (onFrame i first) (onFrame i pass) ∧
        GoesOn loops k (onDeviceFrame i first) (onDeviceFrame i pass)

/-- The run has followed no pointer that dangles, and its passes repeat the first one. -/
def RepeatsSafely (infos : List Lvx2DeviceInfo) :
    Playback ⊕ (Except PlayFault Lvx2PlayStats × Playback) → Prop
  | .inl s => Repeats infos s.loops s.passes
  | .inr (result, s) =>
    (∀ ref, result ≠ .error (.danglingInfo ref)) ∧ Repeats infos s.loops s.passes

theorem renumber_renumber (n m : UInt32) (frames : List Frame) :
    renumber n (renumber m frames) = renumber n frames := by
  rw [renumber, renumber, List.mapIdx_mapIdx]
  rfl

/-- What a callback gets that is set for all passes or for none. -/
theorem goesOn_of_renumber {loops k : ℕ} {first frames : List Frame}
    (hsame : k < loops → frames = first) (called : Bool) :
    GoesOn loops k (if called then renumber 0 first else [])
      (if called then renumber (UInt32.ofNat (k * first.length)) frames else []) := by
  cases called with
  | false => simp [GoesOn, renumber]
  | true =>
    have hlength : (renumber 0 first).length = first.length := List.length_mapIdx
    simp only [GoesOn, if_true, hlength]
    split_ifs with hk
    · rw [renumber_renumber, hsame hk]
    · rw [renumber_renumber]

section Repeats

variable {o : Lvx2PlayOptions} {cb : PlayCallbacks} {infos : List Lvx2DeviceInfo}
  {packets : List Lvx2Packet} {loops : ℕ} {passes : List (List PlayEvent)}

namespace History

variable {k : ℕ} {pass : List PlayEvent}

/-- The log of each pass, completed or not. -/
theorem passLog (h : History o cb infos packets loops passes) (hpass : passes[k]? = some pass) :
    ∃ n frames, PassLog o cb infos (packets.take n) (passStart o infos packets k) frames pass ∧
      (k < loops → packets.take n = packets ∧ frames = passFrames o infos packets) := by
  by_cases hk : k < loops
  · refine ⟨packets.length, passFrames o infos packets, ?_, fun _ => ⟨List.take_length, rfl⟩⟩
    rw [List.take_length]
    exact h.complete k pass hk hpass
  · obtain ⟨hlt, -⟩ := List.getElem?_eq_some_iff.mp hpass
    obtain rfl : k = loops := by
      have hlength := h.length.2
      omega
    obtain ⟨n, frames, hlog⟩ := h.last pass hpass
    exact ⟨n, frames, hlog, fun hlt => absurd hlt hk⟩

/-- A pass that follows the first one follows a whole one. -/
theorem eq_first (h : History o cb infos packets loops passes) {first : List PlayEvent}
    (hfirst : passes[0]? = some first) (hpass : passes[k]? = some pass) (hnone : loops = 0) :
    k = 0 ∧ pass = first := by
  obtain ⟨hlt, -⟩ := List.getElem?_eq_some_iff.mp hpass
  obtain rfl : k = 0 := by
    have hlength := h.length.2
    omega
  exact ⟨rfl, Option.some.inj (hpass.symm.trans hfirst)⟩

/-- The frames of a device in the first pass and in pass `k`. -/
theorem logged (h : History o cb infos packets loops passes) {first : List PlayEvent}
    (hfirst : passes[0]? = some first) (hpass : passes[k]? = some pass) {i : ℕ}
    {info : Lvx2DeviceInfo} (hinfo : infos[i]? = some info) :
    ∃ before frames, Logged cb i info 0 before first ∧
      Logged cb i info (UInt32.ofNat (k * before.length)) frames pass ∧
      (k < loops → frames = before) := by
  obtain ⟨n, before, hlog, hwhole⟩ := h.passLog hfirst
  have hstart : passStart o infos packets 0 i = 0 := by simp [passStart]
  have hbefore := hlog.logged i info hinfo
  rw [hstart] at hbefore
  rcases Nat.eq_zero_or_pos loops with hnone | hloops
  · obtain ⟨rfl, rfl⟩ := h.eq_first hfirst hpass hnone
    refine ⟨before i, before i, hbefore, ?_, fun _ => rfl⟩
    rw [Nat.zero_mul]
    exact hbefore
  · obtain ⟨m, frames, hlog', hwhole'⟩ := h.passLog hpass
    obtain ⟨-, rfl⟩ := hwhole hloops
    exact ⟨_, frames i, hbefore, hlog'.logged i info hinfo, fun hk => congrFun (hwhole' hk).2 i⟩

theorem repeats (h : History o cb infos packets loops passes) : Repeats infos loops passes where
  dispatched := by
    intro first pass k hfirst hpass
    obtain ⟨n, before, hlog, hwhole⟩ := h.passLog hfirst
    rcases Nat.eq_zero_or_pos loops with hnone | hloops
    · obtain ⟨-, rfl⟩ := h.eq_first hfirst hpass hnone
      exact List.prefix_refl _
    · obtain ⟨m, frames, hlog', -⟩ := h.passLog hpass
      rw [hlog.dispatched, hlog'.dispatched, (hwhole hloops).1]
      exact (List.take_prefix m packets).map _
  complete := by
    intro first pass k hk hfirst hpass
    rw [(h.complete 0 first (by omega) hfirst).dispatched, (h.complete k pass hk hpass).dispatched]
  owned := by
    intro pass mem
    obtain ⟨k, hpass⟩ := List.mem_iff_getElem?.mp mem
    obtain ⟨n, frames, hlog, -⟩ := h.passLog hpass
    exact hlog.owned
  numbered := by
    intro first pass k i hi hfirst hpass
    obtain ⟨before, frames, hbefore, hframes, hsame⟩ :=
      h.logged hfirst hpass (List.getElem?_eq_getElem hi)
    have hsnd : ∀ (called : Bool) (info : Lvx2DeviceInfo) (frames : List Frame),
        (if called then frames.map (info, ·) else []).map Prod.snd =
          if called then frames else [] := by
      intro called info frames
      cases called <;> simp [Function.comp_def]
    constructor
    · rw [onFrame, onFrame, hbefore.onFrame, hframes.onFrame]
      exact goesOn_of_renumber hsame _
    · rw [onDeviceFrame, onDeviceFrame, hbefore.onDeviceFrame, hframes.onDeviceFrame, hsnd, hsnd]
      exact goesOn_of_renumber hsame _

end History

end Repeats

/-- **Looped playback repeats itself safely** exactly when the second pass reads no
package that follows a pointer. -/
theorem looped_playback_iff {player : Lvx2Player} {fs : FileSystem} (hopened : player.Opened fs)
    (hpath : player.path ≠ "") (hloop : player.options.loop = true) (stop : StopToken)
    {packets : List Lvx2Packet} {ending : Except Lvx2Failure Bool}
    (hreads : Reads player.reader.cursor packets ending) :
    (∀ n, RepeatsSafely player.infos (player.run fs stop n)) ↔
      ¬Dangles player packets ending stop := by
  constructor
  · intro hsafe hdangles
    obtain ⟨ref, s, hrun⟩ := Between.dangles hopened hloop hreads hpath hdangles
    have hsecond := hsafe 2
    rw [hrun] at hsecond
    exact hsecond.1 ref rfl
  · intro hsafe n
    by_cases hrefuses : player.Refuses
    · obtain ⟨e, hrun⟩ := Lvx2Player.run_of_refuses hpath hrefuses fs stop n
      have hnone : History player.options player.callbacks player.infos packets 0 [] := .nil
      rw [hrun]
      exact ⟨fun ref => by simp, hnone.repeats⟩
    · have hturn : ∀ s, Between player packets ending s → Sum.elim (Between player packets ending)
          (Between.Ended player packets) (player.passTurn fs stop s) :=
        fun s h => Between.turn hopened hloop hreads h hrefuses hsafe
      have hturns : Sum.elim (Between player packets ending) (Between.Ended player packets)
          (WhileLoop.turns (player.passTurn fs stop) n player.start) := by
        refine WhileLoop.turns_induction (fun s s' h heq => ?_) (fun s r h heq => ?_) n
          (Between.start hopened.isOpen hreads)
        all_goals
          have hstep := hturn s h
          rwa [heq] at hstep
      rw [player.run_of_not_refuses hpath hrefuses]
      cases hrun : WhileLoop.turns (player.passTurn fs stop) n player.start with
      | inl =>
        rw [hrun] at hturns
        exact hturns.history.repeats
      | inr =>
        rw [hrun] at hturns
        exact ⟨hturns.1, hturns.2.repeats⟩

/-- A player with `loop` and `on_device_frame` set. -/
def loopingPlayer : Lvx2Player where
  options := { loop := true }
  callbacks := { deviceFrameCb := true }

/-- The file of one device with one packet, at every path. -/
def oneFile : FileSystem :=
  fileOf (record smallDisk "one.lvx2" [{}] 50 oneWrite)

/-- The player once it has opened the file. -/
def openedPlayer : Lvx2Player :=
  (loopingPlayer.open oneFile "one.lvx2").2

/-- A token that is stopped before the poll `n`. -/
def stopBefore (n : ℕ) : StopToken where
  requested := fun k => decide (n ≤ k)
  stays := fun k h => by simp only [decide_eq_true_eq] at h ⊢; omega

/-- The run has ended at a pointer that dangles. -/
def hasDangled : Playback ⊕ (Except PlayFault Lvx2PlayStats × Playback) → Bool
  | .inr (.error (.danglingInfo _), _) => true
  | _ => false

theorem not_repeatsSafely_of_hasDangled {infos : List Lvx2DeviceInfo}
    {r : Playback ⊕ (Except PlayFault Lvx2PlayStats × Playback)} (h : hasDangled r = true) :
    ¬RepeatsSafely infos r := by
  intro hsafe
  unfold hasDangled at h
  split at h
  · exact hsafe.1 _ rfl
  · exact absurd h (by decide)

theorem open_openedPlayer : loopingPlayer.open oneFile "one.lvx2" = (.ok (), openedPlayer) := by
  have hopen : (loopingPlayer.reader.open oneFile "one.lvx2").1 = .ok () := by
    decide +kernel
  have hfilter : loopingPlayer.options.lidarId = none := rfl
  have hok : (loopingPlayer.open oneFile "one.lvx2").1 = .ok () := by
    rw [Lvx2Player.open_of_no_filter hfilter hopen]
  rw [openedPlayer, ← hok]

theorem opened_openedPlayer : openedPlayer.Opened oneFile :=
  ⟨loopingPlayer, "one.lvx2", open_openedPlayer⟩

set_option maxRecDepth 10000 in
/-- The frame of the second pass is delivered with a pointer into a list that is gone. -/
theorem looped_playback_dangles :
    openedPlayer.Opened oneFile ∧
      hasDangled (openedPlayer.run oneFile (stopBefore 100) 2) = true ∧
      ¬∀ n, RepeatsSafely openedPlayer.infos (openedPlayer.run oneFile (stopBefore 100) n) := by
  have hrun : hasDangled (openedPlayer.run oneFile (stopBefore 100) 2) = true := by
    decide +kernel
  exact ⟨opened_openedPlayer, hrun, fun h => not_repeatsSafely_of_hasDangled hrun (h 2)⟩

/-- A run that is stopped before its second pass. -/
theorem looped_playback_iff_one_pass :
    openedPlayer.Opened oneFile ∧ openedPlayer.options.loop = true ∧
      ∀ n, RepeatsSafely openedPlayer.infos (openedPlayer.run oneFile (stopBefore 4) n) := by
  obtain ⟨packets, ending, hreads⟩ := exists_reads openedPlayer.reader.cursor
  obtain ⟨-, hplayer, -⟩ := Lvx2Player.open_ok open_openedPlayer
  have hpath : openedPlayer.path ≠ "" := by
    rw [congrArg Lvx2Player.path hplayer]
    decide
  have hloop : openedPlayer.options.loop = true := by
    rw [congrArg Lvx2Player.options hplayer]
    rfl
  refine ⟨opened_openedPlayer, hloop, ?_⟩
  rw [looped_playback_iff opened_openedPlayer hpath hloop (stopBefore 4) hreads]
  rintro ⟨-, -, -, j, p, -, hstop, -⟩
  simp only [stopBefore, decide_eq_false_iff_not] at hstop
  omega

end LivoxMid360
