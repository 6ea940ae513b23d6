import LivoxMid360.Protocol

/-!
# The frame assembler

`FrameAssembler` (`frame_assembler.cpp`) turns a stream of parsed point-cloud
packets into frames.  It is a state machine with five operations; `push` is the
one with all the decisions, and is cut here into the stages of its body:

1. `observe` maps the time, tracks `udp_cnt` and books drops and reordering;
2. `isLate` rejects a straggler of a frame that was already delivered;
3. `trackFallback` watches for a `frame_cnt` that never changes;
4. `closeFrame` decides whether the packet closes the partial frame;
5. `openFrame` starts a frame when there is none;
6. `book` appends the points and updates the counters.

`push_ignored`, `push_late` and `push_accepted` say which stages run.  Results
about the assembler are derived from these three and from one lemma per stage.

Times, counters on the wire and the fields of `Frame` have the width of the
source and wrap as it does.  The 64-bit event counters of `Counters` are natural
numbers: no run can make them wrap.
-/

namespace LivoxMid360

/-! ## Frames -/

structure Point where
  x : Float32 := 0
  y : Float32 := 0
  z : Float32 := 0
  reflectivity : UInt8 := 0
  tag : UInt8 := 0
  line : UInt8 := 0
  offsetNs : UInt32 := 0

structure Frame where
  index : UInt32 := 0
  baseTimeNs : UInt64 := 0
  endTimeNs : UInt64 := 0
  points : List Point := []
  packets : UInt32 := 0
  droppedPackets : UInt32 := 0
  frameCnt : UInt8 := 0
  sourceType : DataType := .kCartesian32
  timeType : TimeType := .kNoSync

inductive FramePolicy.Mode where
  | kFrameCounter
  | kTimeWindow
deriving DecidableEq, Repr

/-- How packets are cut into frames; `window` is in nanoseconds. -/
structure FramePolicy where
  mode : FramePolicy.Mode := .kFrameCounter
  window : Int64 := 100000000
deriving DecidableEq, Repr

inductive TimestampPolicy where
  | kLidar
  | kHostOffsetOnce
  | kHostReceive
deriving DecidableEq, Repr

/-! ## `DropCounter` -/

structure DropCounter where
  have_ : Bool := false
  last : UInt16 := 0
deriving DecidableEq, Repr

structure DropCounter.Result where
  dropped : UInt32 := 0
  reordered : Bool := false
deriving DecidableEq, Repr

namespace DropCounter

/-- `udp_cnt - expected`, in sixteen bits. -/
def gap (last udpCnt : UInt16) : UInt16 :=
  udpCnt - (last + 1)

/-- `observe`. -/
def observe (d : DropCounter) (udpCnt : UInt16) (frameChanged : Bool) : Result × DropCounter :=
  if d.have_ = false then ({}, { have_ := true, last := udpCnt })
  else
    let gap := gap d.last udpCnt
    if gap = 0 ∨ (udpCnt = 0 ∧ frameChanged) then ({}, { d with last := udpCnt })
    else if gap > 0x8000 then ({ reordered := true }, d)
    else ({ dropped := gap.toUInt32 }, { d with last := udpCnt })

def reset (d : DropCounter) : DropCounter :=
  { d with have_ := false }

/-- What one packet does to the counter. -/
theorem observe_cases (d : DropCounter) (udpCnt : UInt16) (frameChanged : Bool) :
    ((d.observe udpCnt frameChanged).1.reordered = false ∧
      (d.observe udpCnt frameChanged).2 = { have_ := true, last := udpCnt } ∧
      (d.have_ = true → gap d.last udpCnt ≤ 0x8000 ∨ (udpCnt = 0 ∧ frameChanged = true))) ∨
    ((d.observe udpCnt frameChanged).1 = { dropped := 0, reordered := true } ∧
      (d.observe udpCnt frameChanged).2 = d ∧ d.have_ = true ∧ gap d.last udpCnt > 0x8000 ∧
      ¬(udpCnt = 0 ∧ frameChanged = true)) := by
  obtain ⟨have_, last⟩ := d
  cases have_ with
  | false => exact .inl ⟨rfl, rfl, by simp⟩
  | true =>
    by_cases hreset : udpCnt = 0 ∧ frameChanged = true
    · left
      simp [observe, hreset]
    · by_cases hback : gap last udpCnt > 0x8000
      · right
        have hne : gap last udpCnt ≠ 0 := by
          rintro hzero
          rw [hzero] at hback
          exact absurd hback (by decide)
        simp [observe, hreset, hback, hne]
      · left
        by_cases hzero : gap last udpCnt = 0
        · simp [observe, hzero]
        · have hle : gap last udpCnt ≤ 0x8000 := UInt16.not_lt.mp hback
          simp [observe, hreset, hback, hzero, hle]

/-- Reordering is never counted as a loss. -/
theorem observe_dropped_of_reordered {d : DropCounter} {udpCnt : UInt16} {frameChanged : Bool}
    (h : (d.observe udpCnt frameChanged).1.reordered = true) :
    (d.observe udpCnt frameChanged).1.dropped = 0 := by
  obtain ⟨hfalse, -, -⟩ | ⟨hresult, -⟩ := d.observe_cases udpCnt frameChanged
  · rw [hfalse] at h
    exact absurd h (by decide)
  · rw [hresult]

end DropCounter

/-! ## `TimeMapper` -/

structure TimeMapper where
  policy : TimestampPolicy
  offset : Option Int64 := none
  synced : Bool := false
deriving DecidableEq, Repr

namespace TimeMapper

/-- `map`: the output time of the first sample, and the mapper afterwards. -/
def map (m : TimeMapper) (h : DataPacketHeader) (recvTimeNs : UInt64) : UInt64 × TimeMapper :=
  match m.policy with
  | .kLidar => (h.timestampNs, m)
  | .kHostReceive => (recvTimeNs, m)
  | .kHostOffsetOnce =>
    if h.timeType ≠ .kNoSync then (h.timestampNs, { m with synced := true })
    else
      match m.offset, m.synced with
      | some offset, false => ((h.timestampNs.toInt64 + offset).toUInt64, m)
      | _, _ =>
        let offset := recvTimeNs.toInt64 - h.timestampNs.toInt64
        ((h.timestampNs.toInt64 + offset).toUInt64,
          { m with offset := some offset, synced := false })

def reset (m : TimeMapper) : TimeMapper :=
  { m with offset := none, synced := false }

end TimeMapper

/-! ## Points -/

/-- `kCentidegToRad`. -/
def kCentidegToRad : Float32 := 3.14159265358979323846 / 18000.0

/-- `convert_point`: every field of the point but `offset_ns`. -/
def convertPoint (pkt : DataPacketView) (i : ℕ) : Point :=
  let out : Point :=
    match pkt.header.dataType with
    | .kCartesian32 =>
      let p := decodeCartesian32 pkt i
      { x := p.xMm.toFloat32 * 0.001
        y := p.yMm.toFloat32 * 0.001
        z := p.zMm.toFloat32 * 0.001
        reflectivity := p.reflectivity
        tag := p.tag }
    | .kCartesian16 =>
      let p := decodeCartesian16 pkt i
      { x := p.xCm.toFloat32 * 0.01
        y := p.yCm.toFloat32 * 0.01
        z := p.zCm.toFloat32 * 0.01
        reflectivity := p.reflectivity
        tag := p.tag }
    | .kSpherical =>
      let p := decodeSpherical pkt i
      let d := p.depthMm.toFloat32 * 0.001
      let theta := p.thetaCentideg.toFloat32 * kCentidegToRad
      let phi := p.phiCentideg.toFloat32 * kCentidegToRad
      let st := theta.sin
      { x := d * st * phi.cos
        y := d * st * phi.sin
        z := d * theta.cos
        reflectivity := p.reflectivity
        tag := p.tag }
    | .kImu => {}
  { out with line := UInt8.ofNat (i % 4) }

/-! ## `FrameAssembler` -/

structure FrameAssembler.Counters where
  packets : ℕ := 0
  points : ℕ := 0
  frames : ℕ := 0
  droppedPackets : ℕ := 0
  reordered : ℕ := 0
  frameCntFallback : ℕ := 0
  typeSwitchGaps : ℕ := 0
deriving DecidableEq, Repr

structure FrameAssembler where
  policy : FramePolicy
  time : TimeMapper
  drops : DropCounter := {}
  counters : FrameAssembler.Counters := {}
  cur : Frame := {}
  nextIndex : UInt32 := 0
  havePrev : Bool := false
  prevFrameCnt : UInt8 := 0
  prevDataType : DataType := .kImu
  frameCntChangedEver : Bool := false
  fallback : Bool := false
  firstTime : Option UInt64 := none
  windowStart : UInt64 := 0

namespace FrameAssembler

/-- The constructor. -/
def new (policy : FramePolicy) (timestamps : TimestampPolicy) : FrameAssembler :=
  { policy, time := { policy := timestamps } }

def timeWindowActive (s : FrameAssembler) : Bool :=
  s.policy.mode = .kTimeWindow || s.fallback

def setPolicy (s : FrameAssembler) (policy : FramePolicy) : FrameAssembler :=
  { s with policy, fallback := false, frameCntChangedEver := false, firstTime := none }

/-- `take_frame`. -/
def takeFrame (s : FrameAssembler) : Frame × FrameAssembler :=
  ({ s.cur with index := s.nextIndex },
    { s with
      nextIndex := s.nextIndex + 1
      counters := { s.counters with frames := s.counters.frames + 1 }
      cur := {} })

def discard (s : FrameAssembler) : FrameAssembler :=
  { s with
    counters := { s.counters with points := s.counters.points - s.cur.points.length }
    cur := { s.cur with points := [], packets := 0, droppedPackets := 0 } }

def flush (s : FrameAssembler) : Option Frame × FrameAssembler :=
  if s.cur.points = [] then (none, s)
  else
    let (frame, s) := s.takeFrame
    (some frame, s)

def rebase (s : FrameAssembler) : FrameAssembler :=
  { s with time := s.time.reset, drops := s.drops.reset }

/-! ### `push`, stage by stage -/

/-- The locals of `push` once a packet has been observed. -/
structure Observation where
  t0 : UInt64
  frameChanged : Bool
  drop : DropCounter.Result

/-- Time, `udp_cnt` and the counters of drops and reordering.  A gap of one packet
at a change of the data type is not a loss. -/
def observe (s : FrameAssembler) (h : DataPacketHeader) (recvTimeNs : UInt64) :
    Observation × FrameAssembler :=
  let (t0, time) := s.time.map h recvTimeNs
  let frameChanged := s.havePrev && h.frameCnt != s.prevFrameCnt
  let (drop, drops) := s.drops.observe h.udpCnt frameChanged
  let typeSwitch : Bool := drop.dropped = 1 && s.havePrev && h.dataType != s.prevDataType
  let drop := if typeSwitch then { drop with dropped := 0 } else drop
  ({ t0, frameChanged, drop },
    { s with
      time
      drops
      counters :=
        { s.counters with
          typeSwitchGaps := s.counters.typeSwitchGaps + if typeSwitch then 1 else 0
          droppedPackets := s.counters.droppedPackets + drop.dropped.toNat
          reordered := s.counters.reordered + if drop.reordered then 1 else 0 } })

/-- A late packet of a frame already delivered. -/
def isLate (s : FrameAssembler) (o : Observation) : Bool :=
  o.drop.reordered && o.frameChanged && !s.timeWindowActive

/-- The window in nanoseconds, at least one. -/
def window (s : FrameAssembler) : UInt64 :=
  (max s.policy.window 1).toUInt64

/-- `first_time_` and the fallback to the time window. -/
def trackFallback (s : FrameAssembler) (o : Observation) : FrameAssembler :=
  let firstTime :=
    match s.firstTime with
    | none => o.t0
    | some first => if o.t0 < first then o.t0 else first
  let s := { s with firstTime := some firstTime }
  if s.policy.mode = .kFrameCounter ∧ s.fallback = false then
    if o.frameChanged then { s with frameCntChangedEver := true }
    else if s.frameCntChangedEver = false ∧ o.t0 ≥ firstTime + 2 * s.window then
      { s with
        fallback := true
        counters := { s.counters with frameCntFallback := s.counters.frameCntFallback + 1 } }
    else s
  else s

/-- Whether the packet closes the partial frame, and whether the next window then
continues the grid of `window_start_`. -/
def closeDecision (s : FrameAssembler) (h : DataPacketHeader) (o : Observation) : Bool × Bool :=
  let close := o.frameChanged
  let onGrid := false
  let (close, onGrid) :=
    if s.timeWindowActive then
      let close : Bool := o.t0 ≥ s.windowStart + s.window
      (close, close)
    else (close, onGrid)
  let (close, onGrid) := if h.dataType ≠ s.cur.sourceType then (true, false) else (close, onGrid)
  let (close, onGrid) := if h.timeType ≠ s.cur.timeType then (true, false) else (close, onGrid)
  let (close, onGrid) :=
    if o.t0 + s.window ≤ s.cur.baseTimeNs then (true, false) else (close, onGrid)
  let spanNs := h.timeInterval.toUInt64 * 100
  if o.t0 ≥ s.cur.baseTimeNs ∧ o.t0 - s.cur.baseTimeNs + spanNs > 0xFFFFFFFF then (true, false)
  else (close, onGrid)

/-- The frame closed by the packet, if any, and `on_grid`. -/
def closeFrame (s : FrameAssembler) (h : DataPacketHeader) (o : Observation) :
    Option Frame × Bool × FrameAssembler :=
  if s.cur.points = [] then (none, false, s)
  else
    let (close, onGrid) := s.closeDecision h o
    if close then
      let (frame, s) := s.takeFrame
      (some frame, onGrid, s)
    else (none, onGrid, s)

/-- Starts a frame when there is no partial one. -/
def openFrame (s : FrameAssembler) (h : DataPacketHeader) (t0 : UInt64) (onGrid : Bool) :
    FrameAssembler :=
  if s.cur.points = [] then
    { s with
      windowStart :=
        if onGrid then s.windowStart + s.window * ((t0 - s.windowStart) / s.window) else t0
      cur :=
        { s.cur with
          baseTimeNs := t0
          endTimeNs := t0
          frameCnt := h.frameCnt
          sourceType := h.dataType
          timeType := h.timeType } }
  else s

/-- The time of the `i`-th sample of a packet whose first sample is at `t0`. -/
def sampleTime (h : DataPacketHeader) (t0 : UInt64) (i : ℕ) : UInt64 :=
  t0 + (sampleTimestampNs h i - h.timestampNs)

/-- The `i`-th point of a packet in a frame with the given base time. -/
def framePoint (pkt : DataPacketView) (t0 baseTimeNs : UInt64) (i : ℕ) : Point :=
  let ts := sampleTime pkt.header t0 i
  let off := if ts ≥ baseTimeNs then ts - baseTimeNs else 0
  { convertPoint pkt i with offsetNs := (min off 0xFFFFFFFF).toUInt32 }

/-- `append`. -/
def append (cur : Frame) (pkt : DataPacketView) (t0 : UInt64) : Frame :=
  let samples := List.range pkt.header.dotNum.toNat
  { cur with
    points := cur.points ++ samples.map (framePoint pkt t0 cur.baseTimeNs)
    endTimeNs := samples.foldl (fun e i => max e (sampleTime pkt.header t0 i)) cur.endTimeNs }

/-- Appends the points and updates the counters and the previous packet. -/
def book (s : FrameAssembler) (pkt : DataPacketView) (o : Observation) : FrameAssembler :=
  let cur := append s.cur pkt o.t0
  { s with
    cur :=
      { cur with
        droppedPackets := cur.droppedPackets + o.drop.dropped
        packets := cur.packets + 1 }
    counters :=
      { s.counters with
        packets := s.counters.packets + 1
        points := s.counters.points + pkt.header.dotNum.toNat }
    havePrev := true
    prevFrameCnt := pkt.header.frameCnt
    prevDataType := pkt.header.dataType }

/-- What `push` does with a packet it accepts. -/
def accept (s : FrameAssembler) (pkt : DataPacketView) (o : Observation) :
    Option Frame × FrameAssembler :=
  let s := s.trackFallback o
  let (out, onGrid, s) := s.closeFrame pkt.header o
  let s := s.openFrame pkt.header o.t0 onGrid
  (out, s.book pkt o)

/-- An IMU packet, or one without samples: `push` returns at once. -/
def isIgnored (h : DataPacketHeader) : Bool :=
  h.dataType = .kImu || h.dotNum = 0

/-- `push`. -/
def push (s : FrameAssembler) (pkt : DataPacketView) (recvTimeNs : UInt64) :
    Option Frame × FrameAssembler :=
  if isIgnored pkt.header then (none, s)
  else
    let (o, s) := s.observe pkt.header recvTimeNs
    if s.isLate o then (none, s) else s.accept pkt o

/-- Whether `push` takes the packet's points. -/
def accepts (s : FrameAssembler) (pkt : DataPacketView) (recvTimeNs : UInt64) : Bool :=
  !isIgnored pkt.header &&
    !(s.observe pkt.header recvTimeNs).2.isLate (s.observe pkt.header recvTimeNs).1

/-! ### Which stages run -/

section Push

variable {s : FrameAssembler} {pkt : DataPacketView} {recvTimeNs : UInt64}

theorem push_ignored (h : isIgnored pkt.header = true) : s.push pkt recvTimeNs = (none, s) :=
  if_pos h

theorem push_late (h : isIgnored pkt.header = false)
    (late : (s.observe pkt.header recvTimeNs).2.isLate (s.observe pkt.header recvTimeNs).1 = true) :
    s.push pkt recvTimeNs = (none, (s.observe pkt.header recvTimeNs).2) := by
  rw [push, if_neg (Bool.eq_false_iff.mp h)]
  exact if_pos late

theorem push_accepted (h : s.accepts pkt recvTimeNs = true) :
    s.push pkt recvTimeNs =
      (s.observe pkt.header recvTimeNs).2.accept pkt (s.observe pkt.header recvTimeNs).1 := by
  simp only [accepts, Bool.and_eq_true, Bool.not_eq_true'] at h
  rw [push, if_neg (Bool.eq_false_iff.mp h.1)]
  exact if_neg (Bool.eq_false_iff.mp h.2)

/-- A packet that is not accepted is ignored, or is late. -/
theorem not_accepts_cases (h : s.accepts pkt recvTimeNs = false) :
    isIgnored pkt.header = true ∨ (isIgnored pkt.header = false ∧
      (s.observe pkt.header recvTimeNs).2.isLate (s.observe pkt.header recvTimeNs).1 = true) := by
  cases hi : isIgnored pkt.header with
  | true => exact .inl rfl
  | false => exact .inr ⟨rfl, by simpa [accepts, hi] using h⟩

end Push

/-! ### What each stage keeps -/

section Stages

variable (s : FrameAssembler) (h : DataPacketHeader) (o : Observation) (recvTimeNs : UInt64)

@[simp] theorem observe_cur : (s.observe h recvTimeNs).2.cur = s.cur := rfl

@[simp] theorem observe_droppedPackets :
    (s.observe h recvTimeNs).2.counters.droppedPackets =
      s.counters.droppedPackets + (s.observe h recvTimeNs).1.drop.dropped.toNat := rfl

/-- The reordering flag of an observation is the drop counter's. -/
theorem observe_reordered (s : FrameAssembler) (h : DataPacketHeader) (recvTimeNs : UInt64) :
    (s.observe h recvTimeNs).1.drop.reordered =
      (s.drops.observe h.udpCnt (s.havePrev && h.frameCnt != s.prevFrameCnt)).1.reordered := by
  unfold observe
  dsimp only
  split_ifs <;> rfl

/-- The fallback bookkeeping touches neither the frame nor the traffic counters. -/
theorem trackFallback_keeps :
    (s.trackFallback o).cur = s.cur ∧ (s.trackFallback o).nextIndex = s.nextIndex ∧
      (s.trackFallback o).counters.packets = s.counters.packets ∧
      (s.trackFallback o).counters.points = s.counters.points ∧
      (s.trackFallback o).counters.frames = s.counters.frames ∧
      (s.trackFallback o).counters.droppedPackets = s.counters.droppedPackets := by
  unfold trackFallback
  dsimp only
  split_ifs <;> exact ⟨rfl, rfl, rfl, rfl, rfl, rfl⟩

@[simp] theorem takeFrame_nextIndex : s.takeFrame.2.nextIndex = s.nextIndex + 1 := rfl

@[simp] theorem takeFrame_counters :
    s.takeFrame.2.counters = { s.counters with frames := s.counters.frames + 1 } := rfl

@[simp] theorem book_nextIndex (pkt : DataPacketView) : (s.book pkt o).nextIndex = s.nextIndex :=
  rfl

@[simp] theorem book_counters (pkt : DataPacketView) :
    (s.book pkt o).counters =
      { s.counters with
        packets := s.counters.packets + 1
        points := s.counters.points + pkt.header.dotNum.toNat } := rfl

/-- `closeFrame` leaves the assembler alone, or takes a frame that has points. -/
theorem closeFrame_cases :
    ((s.closeFrame h o).1 = none ∧ (s.closeFrame h o).2.2 = s) ∨
    (s.cur.points ≠ [] ∧ (s.closeFrame h o).1 = some s.takeFrame.1 ∧
      (s.closeFrame h o).2.2 = s.takeFrame.2) := by
  unfold closeFrame
  split_ifs with hempty
  · exact .inl ⟨rfl, rfl⟩
  · dsimp only
    split_ifs
    · exact .inr ⟨hempty, rfl, rfl⟩
    · exact .inl ⟨rfl, rfl⟩

/-- Opening a frame sets its times and types only. -/
theorem openFrame_keeps (t0 : UInt64) (onGrid : Bool) :
    (s.openFrame h t0 onGrid).cur.points = s.cur.points ∧
      (s.openFrame h t0 onGrid).cur.packets = s.cur.packets ∧
      (s.openFrame h t0 onGrid).cur.droppedPackets = s.cur.droppedPackets ∧
      (s.openFrame h t0 onGrid).nextIndex = s.nextIndex ∧
      (s.openFrame h t0 onGrid).counters = s.counters := by
  unfold openFrame
  split_ifs <;> exact ⟨rfl, rfl, rfl, rfl, rfl⟩

/-- After an accepted packet the drop counter and the reordering count are those
of the observation, and the packet is the previous one. -/
theorem accept_tracking (pkt : DataPacketView) :
    (s.accept pkt o).2.drops = s.drops ∧
      (s.accept pkt o).2.counters.reordered = s.counters.reordered ∧
      (s.accept pkt o).2.havePrev = true ∧
      (s.accept pkt o).2.prevFrameCnt = pkt.header.frameCnt := by
  have htrack : (s.trackFallback o).drops = s.drops ∧
      (s.trackFallback o).counters.reordered = s.counters.reordered := by
    unfold trackFallback
    dsimp only
    split_ifs <;> exact ⟨rfl, rfl⟩
  have hclose : ((s.trackFallback o).closeFrame pkt.header o).2.2.drops = s.drops ∧
      ((s.trackFallback o).closeFrame pkt.header o).2.2.counters.reordered =
        s.counters.reordered := by
    obtain ⟨-, hsame⟩ | ⟨-, -, htaken⟩ := (s.trackFallback o).closeFrame_cases pkt.header o
    · rw [hsame]
      exact htrack
    · rw [htaken]
      exact htrack
  have hopen : ∀ (s' : FrameAssembler) (onGrid : Bool),
      (s'.openFrame pkt.header o.t0 onGrid).drops = s'.drops ∧
        (s'.openFrame pkt.header o.t0 onGrid).counters = s'.counters := by
    intro s' onGrid
    unfold openFrame
    split_ifs <;> exact ⟨rfl, rfl⟩
  refine ⟨(hopen _ _).1.trans hclose.1, ?_, rfl, rfl⟩
  exact (congrArg Counters.reordered (hopen _ _).2).trans hclose.2

end Stages

variable {s : FrameAssembler}

/-- While the time window is active, the fallback only keeps the earliest time. -/
theorem trackFallback_of_active (h : s.timeWindowActive = true) (o : Observation) :
    ∃ first, s.trackFallback o = { s with firstTime := some first } := by
  have hnot : ¬(s.policy.mode = .kFrameCounter ∧ s.fallback = false) := by
    rintro ⟨hmode, hfallback⟩
    simp [timeWindowActive, hmode, hfallback] at h
  unfold trackFallback
  exact ⟨_, if_neg hnot⟩

variable {pkt : DataPacketView}

/-- A packet that does not close the partial frame joins it. -/
theorem accept_of_not_close {o : Observation} (hpoints : (s.trackFallback o).cur.points ≠ [])
    (hclose : ((s.trackFallback o).closeDecision pkt.header o).1 = false) :
    s.accept pkt o = (none, (s.trackFallback o).book pkt o) := by
  have hkeep : (s.trackFallback o).closeFrame pkt.header o =
      (none, ((s.trackFallback o).closeDecision pkt.header o).2, s.trackFallback o) := by
    rw [closeFrame, if_neg hpoints]
    exact if_neg (Bool.eq_false_iff.mp hclose)
  simp only [accept, hkeep]
  rw [openFrame, if_neg hpoints]

/-! ### The bookkeeping of a packet -/

/-- `s'` has the policy, the clock and the bookkeeping of the fallback of `s`. -/
structure Tracks (s s' : FrameAssembler) : Prop where
  policy : s'.policy = s.policy
  time : s'.time = s.time
  fallback : s'.fallback = s.fallback
  firstTime : s'.firstTime = s.firstTime
  frameCntChangedEver : s'.frameCntChangedEver = s.frameCntChangedEver
  frameCntFallback : s'.counters.frameCntFallback = s.counters.frameCntFallback

theorem Tracks.active {s' : FrameAssembler} (h : Tracks s s') :
    s'.timeWindowActive = s.timeWindowActive := by
  rw [timeWindowActive, timeWindowActive, h.policy, h.fallback]

theorem Tracks.window {s' : FrameAssembler} (h : Tracks s s') : s'.window = s.window := by
  rw [FrameAssembler.window, FrameAssembler.window, h.policy]

/-- Once the fallback has been looked at, `push` leaves the bookkeeping alone. -/
theorem accept_tracks (s : FrameAssembler) (pkt : DataPacketView) (o : Observation) :
    Tracks (s.trackFallback o) (s.accept pkt o).2 := by
  have hopen : ∀ (s' : FrameAssembler) (onGrid : Bool),
      Tracks s' ((s'.openFrame pkt.header o.t0 onGrid).book pkt o) := by
    intro s' onGrid
    unfold openFrame
    split_ifs <;> exact ⟨rfl, rfl, rfl, rfl, rfl, rfl⟩
  have hstate : (s.accept pkt o).2 = (((s.trackFallback o).closeFrame pkt.header o).2.2.openFrame
      pkt.header o.t0 ((s.trackFallback o).closeFrame pkt.header o).2.1).book pkt o := rfl
  rw [hstate]
  obtain ⟨-, hsame⟩ | ⟨-, -, htaken⟩ := (s.trackFallback o).closeFrame_cases pkt.header o
  · rw [hsame]
    exact hopen _ _
  · rw [htaken]
    obtain ⟨h₁, h₂, h₃, h₄, h₅, h₆⟩ := hopen (s.trackFallback o).takeFrame.2
      ((s.trackFallback o).closeFrame pkt.header o).2.1
    exact ⟨h₁, h₂, h₃, h₄, h₅, h₆⟩

theorem push_tracks {recvTimeNs : UInt64} (haccepts : s.accepts pkt recvTimeNs = true) :
    Tracks ((s.observe pkt.header recvTimeNs).2.trackFallback (s.observe pkt.header recvTimeNs).1)
      (s.push pkt recvTimeNs).2 := by
  rw [push_accepted haccepts]
  exact accept_tracks ..

/-- The clock after a packet that is not ignored, late or not. -/
theorem push_clock {recvTimeNs : UInt64} (hpoints : isIgnored pkt.header = false) :
    (s.push pkt recvTimeNs).2.time = (s.time.map pkt.header recvTimeNs).2 := by
  cases haccepts : s.accepts pkt recvTimeNs with
  | true =>
    have htime : ∀ (s' : FrameAssembler) (o : Observation),
        (s'.trackFallback o).time = s'.time := by
      intro s' o
      unfold trackFallback
      dsimp only
      split_ifs <;> rfl
    rw [(push_tracks haccepts).time, htime]
    rfl
  | false =>
    obtain hignored | ⟨-, hlate⟩ := not_accepts_cases haccepts
    · exact absurd (hpoints.symm.trans hignored) (by decide)
    · rw [push_late hpoints hlate]
      rfl

end FrameAssembler

end LivoxMid360
