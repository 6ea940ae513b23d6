import LivoxMid360.FrameAssembler
import LivoxMid360.Lvx2.Reader

/-!
# The lvx2 player

`Lvx2Player::run` plays a file package by package: each package goes to one of the
played devices, whose frame assembler may deliver a frame, and at the end of a pass the
partial frames are flushed.  With `loop` the reader is then opened again and the next
pass begins.

A played device does not hold its `Lvx2DeviceInfo`.  It holds a pointer into the
device list of the reader, an `InfoRef`, and opening the reader destroys that list.
The pointer is therefore looked up (`Lvx2Reader.deref`) each time the source follows
it, and following a pointer into a list that is gone ends the run with
`PlayFault.danglingInfo`: there is no saying what the program does from there.

The stop token is polled before every pass, before every package and after every
flush; `polls` counts the polls.  Packages are not paced (`rate` is zero), so nothing
else looks at it.

* `playPackets` is a pass over a list of packages, and `packetLoop_of_ok` and
  `packetLoop_of_dangling` say that the loop over the reader is a pass over the
  packages the reader has, up to where it was stopped.
-/

namespace LivoxMid360

open Lvx2

/-! ## Options, callbacks and statistics -/

structure Lvx2PlayOptions where
  framePolicy : FramePolicy := {}
  loop : Bool := false
  lidarId : Option UInt32 := none
deriving DecidableEq, Repr

/-- Which callbacks are set. -/
structure PlayCallbacks where
  packetCb : Bool := false
  frameCb : Bool := false
  deviceFrameCb : Bool := false
deriving DecidableEq, Repr

structure Lvx2DevicePlayStats where
  lidarId : UInt32 := 0
  packets : ℕ := 0
  frames : ℕ := 0
  points : ℕ := 0
  droppedPackets : ℕ := 0
deriving DecidableEq, Repr

structure Lvx2PlayStats where
  packets : ℕ := 0
  frames : ℕ := 0
  points : ℕ := 0
  droppedPackets : ℕ := 0
  loops : ℕ := 0
  unlistedPackets : ℕ := 0
  devices : List Lvx2DevicePlayStats := []
deriving DecidableEq, Repr

/-- A stop token: what each poll of it returns.  A stop request is never taken back. -/
structure StopToken where
  requested : ℕ → Bool
  stays : ∀ n, requested n = true → requested (n + 1) = true

theorem StopToken.requested_of_le (stop : StopToken) {m n : ℕ} (hle : m ≤ n)
    (h : stop.requested m = true) : stop.requested n = true := by
  induction hle with
  | refl => exact h
  | step _ ih => exact stop.stays _ ih

/-- A package that is returned leaves less to read. -/
theorem Lvx2Reader.nextPacket_remaining {r r' : Lvx2Reader} {p : Lvx2Packet}
    (h : r.nextPacket = (.ok (some p), r')) :
    r'.cursor.remaining < r.cursor.remaining := by
  unfold nextPacket at h
  split_ifs at h with hopen
  · exact absurd (congrArg Prod.fst h) (by simp)
  · obtain ⟨hresult, rfl⟩ := Prod.mk.inj h
    exact (Cursor.nextPacket_returns rfl).1 p hresult

/-! ## Played devices -/

/-- What `PlayedDevice::info` points to: the unnamed device of a file without device
info, or an entry of a device list of the reader. -/
inductive InfoRef where
  | unnamed
  | listed (generation index : ℕ)
deriving DecidableEq, Repr

/-- Follows a pointer; there is nothing behind a pointer into a list that is gone. -/
def Lvx2Reader.deref (r : Lvx2Reader) : InfoRef → Option Lvx2DeviceInfo
  | .unnamed => some {}
  | .listed generation index => if generation = r.generation then r.devices[index]? else none

structure PlayedDevice where
  info : InfoRef
  assembler : FrameAssembler
  nextIndex : UInt32 := 0
  stats : Lvx2DevicePlayStats := {}

/-- What a run does that can be seen.  A package is dispatched to the played device
with the given position, or to none. -/
inductive PlayEvent where
  | dispatched (p : Lvx2Packet) (device : Option ℕ)
  | packet (p : Lvx2Packet)
  | frame (device : ℕ) (f : Frame)
  | deviceFrame (device : ℕ) (info : Lvx2DeviceInfo) (f : Frame)

/-- How a run ends without a result. -/
inductive PlayFault where
  | failed (e : Lvx2Failure)
  | danglingInfo (ref : InfoRef)
deriving DecidableEq, Repr

namespace PlayedDevice

/-- The constructor. -/
def new (info : InfoRef) (device : Lvx2DeviceInfo) (policy : FramePolicy) : PlayedDevice :=
  { info, assembler := .new policy .kLidar, stats := { lidarId := device.lidarId } }

/-- The counts of a device that delivers a frame. -/
def counted (dev : PlayedDevice) (f : Frame) : PlayedDevice :=
  { dev with
    nextIndex := dev.nextIndex + 1
    stats :=
      { dev.stats with
        frames := dev.stats.frames + 1
        points := dev.stats.points + f.points.length } }

section Callbacks

variable (cb : PlayCallbacks) (deref : InfoRef → Option Lvx2DeviceInfo)

/-- `deliver`: the device and the callbacks afterwards. -/
def deliver (device : ℕ) (dev : PlayedDevice) :
    Option Frame → Except InfoRef (PlayedDevice × List PlayEvent)
  | none => .ok (dev, [])
  | some f =>
    let f := { f with index := dev.nextIndex }
    let dev := dev.counted f
    let events := if cb.frameCb then [.frame device f] else []
    if cb.deviceFrameCb then
      match deref dev.info with
      | none => .error dev.info
      | some info => .ok (dev, events ++ [.deviceFrame device info f])
    else .ok (dev, events)

/-- A package played on a device. -/
def playPacket (device : ℕ) (dev : PlayedDevice) (p : Lvx2Packet) :
    Except InfoRef (PlayedDevice × List PlayEvent) :=
  let dev := { dev with stats := { dev.stats with packets := dev.stats.packets + 1 } }
  let events := if cb.packetCb then [.packet p] else []
  let pushed := dev.assembler.push p.toDataPacketView p.timestampNs
  (deliver cb deref device { dev with assembler := pushed.2 } pushed.1).map fun (dev, frames) =>
    (dev, .dispatched p (some device) :: events ++ frames)

/-- The end of a pass on a device. -/
def flush (device : ℕ) (dev : PlayedDevice) : Except InfoRef (PlayedDevice × List PlayEvent) :=
  let flushed := dev.assembler.flush
  (deliver cb deref device { dev with assembler := flushed.2 } flushed.1).map fun (dev, frames) =>
    ({ dev with
      stats :=
        { dev.stats with
          droppedPackets :=
            dev.stats.droppedPackets + dev.assembler.counters.droppedPackets } },
      frames)

end Callbacks

end PlayedDevice

/-! ## A pass -/

/-- The played devices, and what has happened in the pass. -/
structure Play where
  played : List PlayedDevice
  unlistedPackets : ℕ := 0
  log : List PlayEvent := []

/-- With several devices, packages go to the device of their `lidar_id`. -/
def Play.byId (play : Play) : Bool :=
  1 < play.played.length

/-- Every device starts a pass with a fresh assembler. -/
def Play.restart (policy : FramePolicy) (play : Play) : Play :=
  { play with
    played := play.played.map fun dev => { dev with assembler := .new policy .kLidar }
    log := [] }

section Pass

variable (o : Lvx2PlayOptions) (cb : PlayCallbacks) (deref : InfoRef → Option Lvx2DeviceInfo)

/-- The `find_if` of `device_of`; positions start at `device`. -/
def findDevice (lidarId : UInt32) :
    ℕ → List PlayedDevice → Except InfoRef (Option (ℕ × PlayedDevice))
  | _, [] => .ok none
  | device, dev :: played =>
    match deref dev.info with
    | none => .error dev.info
    | some info =>
      if info.lidarId = lidarId then .ok (some (device, dev))
      else findDevice lidarId (device + 1) played

namespace Play

/-- `device_of`. -/
def deviceOf (play : Play) (p : Lvx2Packet) : Except InfoRef (Option (ℕ × PlayedDevice)) :=
  if play.byId then findDevice deref p.lidarId 0 play.played
  else if o.lidarId.any (p.lidarId != ·) then .ok none
  else .ok (play.played.head?.map fun dev => (0, dev))

/-- A package of the pass, once its device is known. -/
def playOn (play : Play) (p : Lvx2Packet) : Option (ℕ × PlayedDevice) → Except InfoRef Play
  | none =>
    .ok
      { play with
        unlistedPackets := play.unlistedPackets + if play.byId then 1 else 0
        log := play.log ++ [.dispatched p none] }
  | some (device, dev) =>
    (dev.playPacket cb deref device p).map fun (dev, events) =>
      { play with played := play.played.set device dev, log := play.log ++ events }

variable {play : Play} {p : Lvx2Packet}

theorem playOn_ok {cb : PlayCallbacks} {deref : InfoRef → Option Lvx2DeviceInfo} {play' : Play}
    {device : ℕ} {dev : PlayedDevice}
    (h : play.playOn cb deref p (some (device, dev)) = .ok play') :
    ∃ dev' events, dev.playPacket cb deref device p = .ok (dev', events) ∧
      play' = { play with played := play.played.set device dev', log := play.log ++ events } := by
  rw [playOn] at h
  cases hplayed : dev.playPacket cb deref device p with
  | error =>
    rw [hplayed] at h
    exact absurd h (by simp [Except.map])
  | ok result =>
    rw [hplayed] at h
    exact ⟨result.1, result.2, rfl, (Except.ok.inj h).symm⟩

/-- A package of the pass. -/
def playPacket (play : Play) (p : Lvx2Packet) : Except InfoRef Play :=
  match play.deviceOf o deref p with
  | .error ref => .error ref
  | .ok device => play.playOn cb deref p device

theorem playPacket_of_deviceOf {o : Lvx2PlayOptions} {cb : PlayCallbacks}
    {deref : InfoRef → Option Lvx2DeviceInfo} {device : Option (ℕ × PlayedDevice)}
    (h : play.deviceOf o deref p = .ok device) :
    play.playPacket o cb deref p = play.playOn cb deref p device := by
  rw [playPacket, h]

/-- Packages of the pass, in order. -/
def playPackets : Play → List Lvx2Packet → Except InfoRef Play
  | play, [] => .ok play
  | play, p :: packets =>
    match play.playPacket o cb deref p with
    | .error ref => .error ref
    | .ok play => playPackets play packets

theorem playPackets_cons_ok {o : Lvx2PlayOptions} {cb : PlayCallbacks}
    {deref : InfoRef → Option Lvx2DeviceInfo} {play' : Play} {packets : List Lvx2Packet} :
    play.playPackets o cb deref (p :: packets) = .ok play' ↔
      ∃ first, play.playPacket o cb deref p = .ok first ∧
        first.playPackets o cb deref packets = .ok play' := by
  rw [playPackets]
  cases hfirst : play.playPacket o cb deref p with
  | error => simp
  | ok => simp

end Play

/-- The devices at the end of a pass; positions start at `device`. -/
def flushDevices : ℕ → List PlayedDevice → Except InfoRef (List PlayedDevice × List PlayEvent)
  | _, [] => .ok ([], [])
  | device, dev :: played =>
    match dev.flush cb deref device with
    | .error ref => .error ref
    | .ok (dev, events) =>
      match flushDevices (device + 1) played with
      | .error ref => .error ref
      | .ok (played, more) => .ok (dev :: played, events ++ more)

/-- The end of a pass. -/
def Play.flush (play : Play) : Except InfoRef Play :=
  match flushDevices cb deref 0 play.played with
  | .error ref => .error ref
  | .ok (played, events) => .ok { play with played, log := play.log ++ events }

/-- A whole pass over packages. -/
def Play.pass (play : Play) (packets : List Lvx2Packet) : Except InfoRef Play :=
  match (play.restart o.framePolicy).playPackets o cb deref packets with
  | .error ref => .error ref
  | .ok play => play.flush cb deref

theorem Play.pass_ok {o : Lvx2PlayOptions} {cb : PlayCallbacks}
    {deref : InfoRef → Option Lvx2DeviceInfo} {play play' : Play} {packets : List Lvx2Packet} :
    play.pass o cb deref packets = .ok play' ↔
      ∃ before, (play.restart o.framePolicy).playPackets o cb deref packets = .ok before ∧
        before.flush cb deref = .ok play' := by
  unfold Play.pass
  cases hplay : (play.restart o.framePolicy).playPackets o cb deref packets with
  | error => simp
  | ok => simp

end Pass

/-! ## The player -/

structure Lvx2Player where
  options : Lvx2PlayOptions := {}
  callbacks : PlayCallbacks := {}
  path : String := ""
  reader : Lvx2Reader := {}

/-- Where a run stands; `passes` is what happened in each pass that has ended. -/
structure Playback where
  reader : Lvx2Reader
  polls : ℕ := 0
  play : Play
  loops : ℕ := 0
  passes : List (List PlayEvent) := []

/-- `lidar_ids`. -/
def lidarIds (devices : List Lvx2DeviceInfo) : String :=
  String.intercalate ", " (devices.map fun d => toString d.lidarId)

namespace Playback

/-- The statistics at the end of a run. -/
def stats (s : Playback) : Lvx2PlayStats where
  packets := (s.play.played.map fun dev => dev.stats.packets).sum
  frames := (s.play.played.map fun dev => dev.stats.frames).sum
  points := (s.play.played.map fun dev => dev.stats.points).sum
  droppedPackets := (s.play.played.map fun dev => dev.stats.droppedPackets).sum
  loops := s.loops
  unlistedPackets := s.play.unlistedPackets
  devices := s.play.played.map PlayedDevice.stats

/-- A pass that has ended, as played so far. -/
def endPass (s : Playback) (play : Play) : Playback :=
  { s with play, passes := s.passes ++ [play.log] }

end Playback

namespace Lvx2Player

/-- `open`. -/
def «open» (player : Lvx2Player) (fs : FileSystem) (path : String) :
    Except Lvx2Error Unit × Lvx2Player :=
  let player := { player with path := "" }
  match player.reader.open fs path with
  | (.error e, reader) => (.error e, { player with reader })
  | (.ok (), reader) =>
    let player := { player with reader }
    match player.options.lidarId with
    | some id =>
      if reader.devices.any (fun d => d.lidarId = id) then (.ok (), { player with path })
      else
        (.error (invalidArgument ("lidar_id " ++ toString id ++
          " is not in the file (lidar_id " ++ lidarIds reader.devices ++ ")")), player)
    | none => (.ok (), { player with path })

/-- Without a filter, a file that the reader opens is open. -/
theorem open_of_no_filter {player : Lvx2Player} (hfilter : player.options.lidarId = none)
    {fs : FileSystem} {path : String} (hopen : (player.reader.open fs path).1 = .ok ()) :
    player.open fs path =
      (.ok (), { player with path, reader := (player.reader.open fs path).2 }) := by
  rcases hreader : player.reader.open fs path with ⟨_ | _, reader⟩
  · rw [hreader] at hopen
    exact absurd hopen (by simp)
  · simp only [Lvx2Player.open, hreader, hfilter]

/-- A player that is open has a file that the reader opens, with the device asked for. -/
theorem open_ok {player opened : Lvx2Player} {fs : FileSystem} {path : String}
    (h : player.open fs path = (.ok (), opened)) :
    (player.reader.open fs path).1 = .ok () ∧
      opened = { player with path, reader := (player.reader.open fs path).2 } ∧
      ∀ id ∈ opened.options.lidarId, ∃ d ∈ opened.reader.devices, d.lidarId = id := by
  rcases hreader : player.reader.open fs path with ⟨_ | _, reader⟩
  · simp [Lvx2Player.open, hreader] at h
  · cases hfilter : player.options.lidarId with
    | none =>
      simp only [Lvx2Player.open, hreader, hfilter] at h
      cases h
      exact ⟨rfl, rfl, fun id mem => absurd (hfilter.symm.trans mem) (by simp)⟩
    | some =>
      simp only [Lvx2Player.open, hreader, hfilter] at h
      split_ifs at h with hlisted
      · cases h
        refine ⟨rfl, rfl, fun id' mem => ?_⟩
        obtain rfl := Option.some.inj (hfilter.symm.trans mem)
        obtain ⟨d, hd, hid⟩ := List.any_eq_true.mp hlisted
        exact ⟨d, hd, of_decide_eq_true hid⟩
      · exact absurd (congrArg Prod.fst h) (by simp)

/-- The devices of the file to play, with their positions in it. -/
def listed (player : Lvx2Player) : List (Lvx2DeviceInfo × ℕ) :=
  player.reader.devices.zipIdx.filter fun d => player.options.lidarId.all (d.1.lidarId = ·)

/-- The devices to play: those of the file, or an unnamed one. -/
def played (player : Lvx2Player) : List PlayedDevice :=
  let policy := player.options.framePolicy
  if player.listed.isEmpty then [.new .unnamed {} policy]
  else player.listed.map fun d => .new (.listed player.reader.generation d.2) d.1 policy

section Run

variable (player : Lvx2Player) (fs : FileSystem) (stop : StopToken)

/-- One turn of the loop over the packages. -/
def packetTurn (s : Playback) : Playback ⊕ (Except PlayFault Unit × Playback) :=
  if stop.requested s.polls then .inr (.ok (), { s with polls := s.polls + 1 })
  else
    let s := { s with polls := s.polls + 1 }
    match s.reader.nextPacket with
    | (.error e, reader) => .inr (.error (.failed e), { s with reader })
    | (.ok none, reader) => .inr (.ok (), { s with reader })
    | (.ok (some p), reader) =>
      match s.play.playPacket player.options player.callbacks reader.deref p with
      | .error ref => .inr (.error (.danglingInfo ref), { s with reader })
      | .ok play => .inl { s with reader, play }

theorem packetTurn_again {s s' : Playback} (h : player.packetTurn stop s = .inl s') :
    ∃ p reader play, stop.requested s.polls = false ∧
      s.reader.nextPacket = (.ok (some p), reader) ∧
      s.play.playPacket player.options player.callbacks reader.deref p = .ok play ∧
      s' = { s with polls := s.polls + 1, reader, play } := by
  unfold packetTurn at h
  dsimp only at h
  split_ifs at h with hstop
  rcases hnext : s.reader.nextPacket with ⟨e | _ | p, reader⟩
  · rw [hnext] at h
    exact absurd h Sum.inr_ne_inl
  · rw [hnext] at h
    exact absurd h Sum.inr_ne_inl
  · rw [hnext] at h
    dsimp only at h
    cases hplay : s.play.playPacket player.options player.callbacks reader.deref p with
    | error =>
      rw [hplay] at h
      exact absurd h Sum.inr_ne_inl
    | ok play =>
      rw [hplay] at h
      obtain rfl := Sum.inl.inj h
      exact ⟨p, reader, play, Bool.eq_false_iff.mpr hstop, rfl, hplay, rfl⟩

/-- The loop over the packages ends: each turn reads one. -/
theorem packetTurn_decreases :
    WhileLoop.Decreases (player.packetTurn stop) fun s => s.reader.cursor.remaining := by
  intro s s' h
  obtain ⟨p, reader, play, -, hnext, -, rfl⟩ := player.packetTurn_again stop h
  exact Lvx2Reader.nextPacket_remaining hnext

/-- The loop over the packages. -/
def packetLoop (s : Playback) : Except PlayFault Unit × Playback :=
  WhileLoop.exec (player.packetTurn stop) (fun s => s.reader.cursor.remaining)
    (player.packetTurn_decreases stop) s

/-- What follows the end of a pass. -/
def afterPass (s : Playback) : Playback ⊕ (Except PlayFault Lvx2PlayStats × Playback) :=
  if stop.requested s.polls then
    let s := { s with polls := s.polls + 1 }
    .inr (.ok s.stats, s)
  else
    let s := { s with polls := s.polls + 1, loops := s.loops + 1 }
    if player.options.loop = false then .inr (.ok s.stats, s)
    else
      match s.reader.open fs player.path with
      | (.error e, reader) => .inr (.error (.failed (.error e)), { s with reader })
      | (.ok (), reader) => .inl { s with reader }

/-- The end of a pass. -/
def flushPass (s : Playback) : Playback ⊕ (Except PlayFault Lvx2PlayStats × Playback) :=
  match s.play.flush player.callbacks s.reader.deref with
  | .error ref => .inr (.error (.danglingInfo ref), s.endPass s.play)
  | .ok play => player.afterPass fs stop (s.endPass play)

/-- One turn of the loop over the passes. -/
def passTurn (s : Playback) : Playback ⊕ (Except PlayFault Lvx2PlayStats × Playback) :=
  if stop.requested s.polls then
    let s := { s with polls := s.polls + 1 }
    .inr (.ok s.stats, s)
  else
    let s :=
      { s with polls := s.polls + 1, play := s.play.restart player.options.framePolicy }
    match player.packetLoop stop s with
    | (.error fault, s) => .inr (.error fault, s.endPass s.play)
    | (.ok (), s) => player.flushPass fs stop s

/-- Where `run` starts. -/
def start : Playback where
  reader := player.reader
  play := { played := player.played }

/-- `run`, watched for at most `n` passes: the state it has got to, or how it ended. -/
def run (n : ℕ) : Playback ⊕ (Except PlayFault Lvx2PlayStats × Playback) :=
  if player.path = "" then
    .inr (.error (.failed (.error (invalidArgument "not open"))), player.start)
  else if player.start.play.byId ∧ player.callbacks.frameCb ∧
      player.callbacks.deviceFrameCb = false then
    .inr (.error (.failed (.error (invalidArgument
      ("the file holds " ++ toString player.reader.devices.length ++ " devices (lidar_id " ++
        lidarIds player.reader.devices ++ "); set lidar_id or use on_device_frame")))),
      player.start)
  else WhileLoop.turns (player.passTurn fs stop) n player.start

end Run

end Lvx2Player

/-! ## The loop over the packages of a reader -/

namespace StopToken

/-- How many of `n` packages are read before a stop, when the next poll is `polls`. -/
def readCount (stop : StopToken) : ℕ → ℕ → ℕ
  | _, 0 => 0
  | polls, n + 1 => if stop.requested polls then 0 else readCount stop (polls + 1) n + 1

variable (stop : StopToken) (polls n : ℕ)

theorem readCount_le : stop.readCount polls n ≤ n := by
  induction n generalizing polls with
  | zero => exact le_rfl
  | succ n ih =>
    unfold readCount
    split_ifs
    · exact Nat.zero_le _
    · exact Nat.succ_le_succ (ih _)

/-- The loop is left early only by a stop. -/
theorem requested_of_readCount_lt (h : stop.readCount polls n < n) :
    stop.requested (polls + stop.readCount polls n) = true := by
  induction n generalizing polls with
  | zero => exact absurd h (Nat.not_lt_zero _)
  | succ n ih =>
    unfold readCount at h ⊢
    split_ifs at h ⊢ with hstop
    · exact hstop
    · have hrest := ih (polls + 1) (Nat.lt_of_succ_lt_succ h)
      rwa [Nat.add_right_comm] at hrest

/-- A loop that no poll has stopped has read everything. -/
theorem readCount_eq {m : ℕ} (hm : polls + stop.readCount polls n ≤ m)
    (hstop : stop.requested m = false) : stop.readCount polls n = n := by
  refine le_antisymm (stop.readCount_le polls n) (Nat.le_of_not_lt fun hlt => ?_)
  rw [stop.requested_of_le hm (stop.requested_of_readCount_lt polls n hlt)] at hstop
  exact absurd hstop (by decide)

/-- Package `j` is read exactly when the poll before it does not stop the loop. -/
theorem lt_readCount_iff {j : ℕ} :
    j < stop.readCount polls n ↔ j < n ∧ stop.requested (polls + j) = false := by
  induction n generalizing polls j with
  | zero => simp [readCount]
  | succ n ih =>
    unfold readCount
    split_ifs with hstop
    · have hlater := stop.requested_of_le (Nat.le_add_right polls j) hstop
      simp [hlater]
    · cases j with
      | zero => simp [hstop]
      | succ =>
        rw [Nat.succ_lt_succ_iff, Nat.succ_lt_succ_iff, ih, Nat.add_right_comm, Nat.add_assoc]

end StopToken

/-- How a pass ends that reads all its packages. -/
def passEnding : Except Lvx2Failure Bool → Except PlayFault Unit
  | .error e => .error (.failed e)
  | .ok _ => .ok ()

namespace Lvx2Player

variable (player : Lvx2Player) (stop : StopToken)

theorem packetTurn_of_stop {s : Playback} (hstop : stop.requested s.polls = true) :
    player.packetTurn stop s = .inr (.ok (), { s with polls := s.polls + 1 }) :=
  if_pos hstop

variable {play : Play}

theorem packetTurn_of_ok {s : Playback} (hstop : stop.requested s.polls = false) {p : Lvx2Packet}
    {reader : Lvx2Reader} (hnext : s.reader.nextPacket = (.ok (some p), reader))
    (hplay : s.play.playPacket player.options player.callbacks reader.deref p = .ok play) :
    player.packetTurn stop s = .inl { s with polls := s.polls + 1, reader, play } := by
  rw [packetTurn, if_neg (Bool.eq_false_iff.mp hstop)]
  dsimp only
  rw [hnext]
  dsimp only
  rw [hplay]

theorem packetTurn_of_dangling {s : Playback} (hstop : stop.requested s.polls = false)
    {p : Lvx2Packet} {reader : Lvx2Reader} (hnext : s.reader.nextPacket = (.ok (some p), reader))
    {ref : InfoRef}
    (hplay : s.play.playPacket player.options player.callbacks reader.deref p = .error ref) :
    player.packetTurn stop s =
      .inr (.error (.danglingInfo ref), { s with polls := s.polls + 1, reader }) := by
  rw [packetTurn, if_neg (Bool.eq_false_iff.mp hstop)]
  dsimp only
  rw [hnext]
  dsimp only
  rw [hplay]

/-- The last poll finds a stop, or there is nothing more to read. -/
theorem packetTurn_of_end {s : Playback} {ending : Except Lvx2Failure Bool}
    (hreads : Reads s.reader.cursor [] ending) (hopen : s.reader.isOpen = true) :
    ∃ cursor, player.packetTurn stop s =
      .inr (if stop.requested s.polls then .ok () else passEnding ending,
        { s with polls := s.polls + 1, reader := { s.reader with cursor } }) := by
  unfold packetTurn
  split_ifs with hstop
  · exact ⟨s.reader.cursor, rfl⟩
  · dsimp only
    cases hreads with
    | @finish c c' next | @fail c c' e next =>
      rw [Reads.nextPacket_of_cursor hopen next]
      exact ⟨c', rfl⟩

/-- **The loop over the packages**, when every pointer that is followed is good: it plays
the packages of the reader up to the first poll that stops it. -/
theorem packetLoop_of_ok {s : Playback} {packets : List Lvx2Packet}
    {ending : Except Lvx2Failure Bool} (hreads : Reads s.reader.cursor packets ending)
    (hopen : s.reader.isOpen = true)
    (hplay : s.play.playPackets player.options player.callbacks s.reader.deref
      (packets.take (stop.readCount s.polls packets.length)) = .ok play) :
    ∃ cursor, player.packetLoop stop s =
      (if stop.requested (s.polls + stop.readCount s.polls packets.length) then .ok ()
        else passEnding ending,
        { s with
          polls := s.polls + stop.readCount s.polls packets.length + 1
          reader := { s.reader with cursor }
          play }) := by
  -- along the packages; the token is polled before each of them, and once more at the end
  unfold packetLoop
  induction packets generalizing s with
  | nil =>
    obtain ⟨cursor, hturn⟩ := player.packetTurn_of_end stop hreads hopen
    cases hplay
    exact ⟨cursor, WhileLoop.exec_done _ hturn⟩
  | cons p packets ih =>
    rw [List.length_cons, StopToken.readCount] at *
    cases hstop : stop.requested s.polls with
    | true =>
      rw [hstop] at hplay
      cases hplay
      refine ⟨s.reader.cursor, ?_⟩
      rw [WhileLoop.exec_done _ (player.packetTurn_of_stop stop hstop)]
      simp only [if_true, Nat.add_zero, hstop]
    | false =>
      rw [hstop, if_neg (by decide), List.take_succ_cons] at hplay
      rcases hreads with _ | _ | ⟨next, rest⟩
      have hnext := Reads.nextPacket_of_cursor hopen next
      obtain ⟨first, hfirst, hplay⟩ := Play.playPackets_cons_ok.mp hplay
      have hturn := player.packetTurn_of_ok stop hstop hnext hfirst
      obtain ⟨cursor, hloop⟩ := ih (s := { s with
        polls := s.polls + 1, reader := { s.reader with cursor := _ }, play := first })
        rest hopen hplay
      refine ⟨cursor, (WhileLoop.exec_again _ hturn).trans (hloop.trans ?_)⟩
      simp only [Bool.false_eq_true, if_false]
      rw [Nat.add_right_comm s.polls 1, Nat.add_assoc s.polls]

/-- The loop over the packages, when a pointer is followed whose list is gone. -/
theorem packetLoop_of_dangling {s : Playback} {packets : List Lvx2Packet}
    {ending : Except Lvx2Failure Bool} (hreads : Reads s.reader.cursor packets ending)
    (hopen : s.reader.isOpen = true) {ref : InfoRef}
    (hplay : s.play.playPackets player.options player.callbacks s.reader.deref
      (packets.take (stop.readCount s.polls packets.length)) = .error ref) :
    ∃ s', player.packetLoop stop s = (.error (.danglingInfo ref), s') := by
  unfold packetLoop
  induction packets generalizing s with
  | nil => exact absurd hplay (by simp [Play.playPackets])
  | cons p packets ih =>
    rw [List.length_cons, StopToken.readCount] at hplay
    cases hstop : stop.requested s.polls with
    | true =>
      rw [hstop] at hplay
      exact absurd hplay (by simp [Play.playPackets])
    | false =>
      rw [hstop, if_neg (by decide), List.take_succ_cons, Play.playPackets] at hplay
      rcases hreads with _ | _ | ⟨next, rest⟩
      have hnext := Reads.nextPacket_of_cursor hopen next
      cases hfirst : s.play.playPacket player.options player.callbacks s.reader.deref p with
      | error =>
        rw [hfirst] at hplay
        obtain rfl := Except.error.inj hplay
        have hturn := player.packetTurn_of_dangling stop hstop hnext hfirst
        exact ⟨_, WhileLoop.exec_done _ hturn⟩
      | ok first =>
        rw [hfirst] at hplay
        have hturn := player.packetTurn_of_ok stop hstop hnext hfirst
        obtain ⟨s', hloop⟩ := ih (s := { s with
          polls := s.polls + 1, reader := { s.reader with cursor := _ }, play := first })
          rest hopen hplay
        exact ⟨s', (WhileLoop.exec_again _ hturn).trans hloop⟩

/-! ## The loop over the passes -/

section Passes

variable (fs : FileSystem) {s : Playback} {packets : List Lvx2Packet}
  {ending : Except Lvx2Failure Bool}

/-- A stop during or behind a pass ends the run. -/
theorem afterPass_of_stop (hstop : stop.requested s.polls = true) :
    player.afterPass fs stop s =
      .inr (.ok (Playback.stats { s with polls := s.polls + 1 }),
        { s with polls := s.polls + 1 }) := by
  rw [afterPass, if_pos hstop]

/-- With `loop`, the reader is opened again for the next pass. -/
theorem afterPass_of_loop (hstop : stop.requested s.polls = false)
    (hloop : player.options.loop = true) {reader : Lvx2Reader}
    (hopen : s.reader.open fs player.path = (.ok (), reader)) :
    player.afterPass fs stop s =
      .inl { s with polls := s.polls + 1, loops := s.loops + 1, reader } := by
  rw [afterPass, if_neg (Bool.eq_false_iff.mp hstop)]
  dsimp only
  rw [if_neg (by rw [hloop]; decide), hopen]

variable {k : ℕ}

variable (hstop : stop.requested s.polls = false) (hreads : Reads s.reader.cursor packets ending)
  (hopen : s.reader.isOpen = true) (hk : k = stop.readCount (s.polls + 1) packets.length)

include hstop hreads hopen hk

/-- A pass that is stopped, or reads the file to its end, is flushed. -/
theorem passTurn_of_played {before : Play}
    (hplay : (s.play.restart player.options.framePolicy).playPackets player.options
      player.callbacks s.reader.deref (packets.take k) = .ok before)
    (hending : stop.requested (s.polls + 1 + k) = true ∨ passEnding ending = .ok ()) :
    ∃ cursor, player.passTurn fs stop s = player.flushPass fs stop { s with
      polls := s.polls + 1 + k + 1, reader := { s.reader with cursor }, play := before } := by
  subst hk
  obtain ⟨cursor, hloop⟩ := player.packetLoop_of_ok stop (s := { s with
    polls := s.polls + 1, play := s.play.restart player.options.framePolicy }) hreads hopen hplay
  have hresult : (if stop.requested (s.polls + 1 + stop.readCount (s.polls + 1) packets.length)
      then .ok () else passEnding ending) = .ok () := by
    split_ifs with hlast
    · rfl
    · exact hending.resolve_left hlast
  refine ⟨cursor, ?_⟩
  rw [passTurn, if_neg (Bool.eq_false_iff.mp hstop)]
  dsimp only at hloop ⊢
  rw [hloop, hresult]

/-- A pass that meets a read error ends the run. -/
theorem passTurn_of_failed {before : Play}
    (hplay : (s.play.restart player.options.framePolicy).playPackets player.options
      player.callbacks s.reader.deref (packets.take k) = .ok before)
    (hread : stop.requested (s.polls + 1 + k) = false) {e : Lvx2Failure}
    (hending : ending = .error e) :
    ∃ cursor, player.passTurn fs stop s = .inr (.error (.failed e), Playback.endPass
      { s with polls := s.polls + 1 + k + 1, reader := { s.reader with cursor } } before) := by
  subst hk hending
  obtain ⟨cursor, hloop⟩ := player.packetLoop_of_ok stop (s := { s with
    polls := s.polls + 1, play := s.play.restart player.options.framePolicy }) hreads hopen hplay
  refine ⟨cursor, ?_⟩
  rw [passTurn, if_neg (Bool.eq_false_iff.mp hstop)]
  dsimp only at hloop ⊢
  rw [hloop, if_neg (Bool.eq_false_iff.mp hread)]
  rfl

/-- **A pass** in which every pointer that is followed is good. -/
theorem passTurn_of_ok {play : Play}
    (hpass : s.play.pass player.options player.callbacks s.reader.deref (packets.take k) =
      .ok play) (hending : stop.requested (s.polls + 1 + k) = true ∨ passEnding ending = .ok ()) :
    ∃ cursor, player.passTurn fs stop s = player.afterPass fs stop (Playback.endPass
      { s with polls := s.polls + 1 + k + 1, reader := { s.reader with cursor } } play) := by
  obtain ⟨before, hplay, hflush⟩ := Play.pass_ok.mp hpass
  obtain ⟨cursor, hturn⟩ := player.passTurn_of_played stop fs hstop hreads hopen hk hplay hending
  refine ⟨cursor, hturn.trans ?_⟩
  have hsame : Lvx2Reader.deref { s.reader with cursor } = s.reader.deref := rfl
  rw [flushPass, hsame, hflush]
  rfl

/-- A pass in which a pointer is followed whose list is gone. -/
theorem passTurn_of_dangling {ref : InfoRef}
    (hpass : s.play.pass player.options player.callbacks s.reader.deref (packets.take k) =
      .error ref) (hending : stop.requested (s.polls + 1 + k) = true ∨ passEnding ending = .ok ()) :
    ∃ s', player.passTurn fs stop s = .inr (.error (.danglingInfo ref), s') := by
  unfold Play.pass at hpass
  cases hplay : (s.play.restart player.options.framePolicy).playPackets player.options
      player.callbacks s.reader.deref (packets.take k) with
  | error ref' =>
    rw [hplay] at hpass
    obtain rfl := Except.error.inj hpass
    subst hk
    obtain ⟨s', hloop⟩ := player.packetLoop_of_dangling stop (s := { s with
      polls := s.polls + 1, play := s.play.restart player.options.framePolicy })
      hreads hopen hplay
    rw [passTurn, if_neg (Bool.eq_false_iff.mp hstop)]
    dsimp only
    rw [hloop]
    exact ⟨_, rfl⟩
  | ok before =>
    rw [hplay] at hpass
    dsimp only at hpass
    obtain ⟨cursor, hturn⟩ :=
      player.passTurn_of_played stop fs hstop hreads hopen hk hplay hending
    have hsame : Lvx2Reader.deref { s.reader with cursor } = s.reader.deref := rfl
    rw [hturn, flushPass, hsame, hpass]
    exact ⟨_, rfl⟩

end Passes

/-- **A run without `loop`** that nobody stops is one pass over the file. -/
theorem run_once (fs : FileSystem) {packets : List Lvx2Packet} {truncated : Bool}
    (hpath : player.path ≠ "") (hcallbacks : ¬(player.start.play.byId ∧ player.callbacks.frameCb ∧
      player.callbacks.deviceFrameCb = false)) (hloop : player.options.loop = false)
    (hstop : ∀ n, stop.requested n = false) (hopen : player.reader.isOpen = true)
    (hreads : Reads player.reader.cursor packets (.ok truncated))
    (hpass : player.start.play.pass player.options player.callbacks player.reader.deref packets =
      .ok play) (n : ℕ) :
    ∃ s, player.run fs stop (n + 1) = .inr (.ok s.stats, s) ∧ s.play = play ∧ s.loops = 1 ∧
      s.passes = [play.log] := by
  have hall : packets.length = stop.readCount (player.start.polls + 1) packets.length :=
    (stop.readCount_eq _ _ le_rfl (hstop _)).symm
  rw [← List.take_length (l := packets)] at hpass
  obtain ⟨cursor, hturn⟩ := player.passTurn_of_ok stop fs (s := player.start) (hstop _) hreads
    hopen hall hpass (.inr rfl)
  rw [afterPass, if_neg (Bool.eq_false_iff.mp (hstop _))] at hturn
  dsimp only at hturn
  rw [if_pos hloop] at hturn
  rw [run, if_neg hpath, if_neg hcallbacks, WhileLoop.turns_done hturn]
  exact ⟨_, rfl, rfl, rfl, rfl⟩

end Lvx2Player

end LivoxMid360
