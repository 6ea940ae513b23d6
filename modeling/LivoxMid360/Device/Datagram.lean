import LivoxMid360.FrameAssembler.Groups

/-!
# Data packets on the receive thread

`on_datagram` parses a datagram of the data ports, consumes what other threads requested
since the last one, and hands the packet on: IMU samples to their callback, point packets
to the assembler.  Both kinds take their times from the one `TimeMapper` of the assembler,
but an IMU packet does not measure the offset of `kHostOffsetOnce` while there is none.

`DataPath` is the state of the receive thread that this concerns.

## The log

A run is read off from what its steps return.  A packet that was delivered is stamped with
the time `TimeMapper.clock` gives it, and a rebase that was requested before a step and no
longer is after it has been made in it; `log` has these in order (`Logged`).

* `step_timed` ties the stamps to the samples: what a step delivers for a packet, or appends
  to the frame in progress, has the times that count from its stamp.
* `stamps_run` ties them to the clock: its state goes from one entry of the log to the next.

`one_offset_per_stretch` is about such a log.  Between rebases and synchronised packets
there is at most one packet that measures; the packets before it, all of the IMU, have
their receive times, and those after it have its offset.
-/

namespace LivoxMid360

structure ImuData where
  timeNs : UInt64
  sample : ImuSample

namespace TimeMapper

/-- An IMU packet that comes before the offset is measured. -/
def pendingOffset (m : TimeMapper) (h : DataPacketHeader) : Bool :=
  h.dataType = .kImu && m.policy = .kHostOffsetOnce && m.offset.isNone && h.timeType = .kNoSync

/-- The time of a packet of either kind. -/
def clock (m : TimeMapper) (h : DataPacketHeader) (recvTimeNs : UInt64) : UInt64 × TimeMapper :=
  if m.pendingOffset h then (recvTimeNs, m) else m.map h recvTimeNs

/-- An offset was measured from one state of the clock to the next: there was none in use, and
now there is. -/
def measured (m m' : TimeMapper) : Bool :=
  (m.offset.isNone || m.synced) && (m'.offset.isSome && !m'.synced)

end TimeMapper

/-! ## The receive thread -/

/-- The counters that `publish_assembler_counters` stores. -/
structure DataPath.Published where
  points : ℕ := 0
  frames : ℕ := 0
  droppedPackets : ℕ := 0
  reordered : ℕ := 0
  frameCntFallback : ℕ := 0
  typeSwitchGaps : ℕ := 0
  timeOffsetNs : Option Int64 := none

structure DataPath where
  verifyCrc : Bool
  timestampPolicy : TimestampPolicy
  assembler : FrameAssembler
  imuDrops : DropCounter := {}
  imuDropped : ℕ := 0
  imuReordered : ℕ := 0
  packets : ℕ := 0
  badPackets : ℕ := 0
  imuSamples : ℕ := 0
  lastPacketTimeNs : UInt64 := 0
  discardRequested : Bool := false
  rebaseRequested : Bool := false
  /-- `policy_requested` together with `policy_pending`. -/
  policyPending : Option FramePolicy := none
  published : DataPath.Published := {}

namespace DataPath

/-- A call of one of the data callbacks. -/
inductive Delivery where
  | packet (pkt : DataPacketView) (hostTimeNs : UInt64)
  | imu (data : ImuData)
  | frame (frame : Frame)

/-- The receive thread of a device that was just opened. -/
def new (verifyCrc : Bool) (framePolicy : FramePolicy) (timestampPolicy : TimestampPolicy) :
    DataPath :=
  { verifyCrc, timestampPolicy, assembler := .new framePolicy timestampPolicy }

def publishAssemblerCounters (d : DataPath) : DataPath :=
  { d with
    published :=
      { points := d.assembler.counters.points
        frames := d.assembler.counters.frames
        droppedPackets := d.assembler.counters.droppedPackets + d.imuDropped
        reordered := d.assembler.counters.reordered + d.imuReordered
        frameCntFallback := d.assembler.counters.frameCntFallback
        typeSwitchGaps := d.assembler.counters.typeSwitchGaps
        timeOffsetNs := d.assembler.time.offset.or d.published.timeOffsetNs } }

/-- `consume_requests`: a frame in progress that is to be thrown away. -/
def consumeDiscard (d : DataPath) : DataPath :=
  if d.discardRequested then { d with discardRequested := false, assembler := d.assembler.discard }
  else d

/-- `consume_requests`: a rebase. -/
def consumeRebase (d : DataPath) : DataPath :=
  if d.rebaseRequested then
    { d with
      rebaseRequested := false
      assembler := d.assembler.rebase
      imuDrops := d.imuDrops.reset }
  else d

/-- `consume_requests`: a new frame policy. -/
def consumePolicy (d : DataPath) : DataPath :=
  match d.policyPending with
  | some policy => { d with policyPending := none, assembler := d.assembler.setPolicy policy }
  | none => d

def consumeRequests (d : DataPath) : DataPath :=
  d.consumeDiscard.consumeRebase.consumePolicy

/-- The time of the first sample of an IMU packet. -/
def imuTime (d : DataPath) (h : DataPacketHeader) (recvTimeNs : UInt64) : UInt64 × TimeMapper :=
  let pendingOffset : Bool :=
    d.timestampPolicy = .kHostOffsetOnce && d.assembler.time.offset.isNone &&
      h.timeType = .kNoSync
  if pendingOffset then (recvTimeNs, d.assembler.time) else d.assembler.time.map h recvTimeNs

/-- The branch of `on_datagram` for IMU packets. -/
def onImu (d : DataPath) (pkt : DataPacketView) (recvTimeNs : UInt64) :
    List Delivery × DataPath :=
  let h := pkt.header
  let (drop, imuDrops) := d.imuDrops.observe h.udpCnt false
  let (t0, time) := d.imuTime h recvTimeNs
  let samples := (List.range h.dotNum.toNat).map fun i =>
    Delivery.imu ⟨t0 + (sampleTimestampNs h i - h.timestampNs), decodeImu pkt i⟩
  (samples, publishAssemblerCounters
      { d with
        imuDrops
        imuDropped := d.imuDropped + drop.dropped.toNat
        imuReordered := d.imuReordered + if drop.reordered then 1 else 0
        assembler := { d.assembler with time }
        imuSamples := d.imuSamples + h.dotNum.toNat })

/-- The branch for point packets. -/
def onPoints (d : DataPath) (pkt : DataPacketView) (recvTimeNs : UInt64) :
    List Delivery × DataPath :=
  let (frame, assembler) := d.assembler.push pkt recvTimeNs
  (frame.toList.map .frame, publishAssemblerCounters { d with assembler })

/-- What `on_datagram` does with the samples of a packet. -/
def onSamples (d : DataPath) (pkt : DataPacketView) (recvTimeNs : UInt64) :
    List Delivery × DataPath :=
  if pkt.header.dataType = .kImu then d.onImu pkt recvTimeNs else d.onPoints pkt recvTimeNs

/-- The device when the samples of a packet are looked at. -/
def received (d : DataPath) (recvTimeNs : UInt64) : DataPath :=
  consumeRequests { d with packets := d.packets + 1, lastPacketTimeNs := recvTimeNs }

/-- `on_datagram` for a packet that was parsed. -/
def onPacket (d : DataPath) (pkt : DataPacketView) (recvTimeNs : UInt64) :
    List Delivery × DataPath :=
  let (out, d) := (d.received recvTimeNs).onSamples pkt recvTimeNs
  (.packet pkt recvTimeNs :: out, d)

/-- `on_datagram` for the data ports. -/
def onDatagram (d : DataPath) (data : List UInt8) (recvTimeNs : UInt64) :
    List Delivery × DataPath :=
  match parseDataPacket data d.verifyCrc with
  | .error _ => ([], { d with badPackets := d.badPackets + 1 })
  | .ok pkt => d.onPacket pkt recvTimeNs

/-! ## Runs -/

inductive Event where
  | datagram (data : List UInt8) (recvTimeNs : UInt64)
  | requestRebase
  | requestDiscard
  | requestPolicy (policy : FramePolicy)

/-- A packet that was given a time. -/
structure Stamp where
  header : DataPacketHeader
  recvTimeNs : UInt64
  t0 : UInt64
  measures : Bool
deriving DecidableEq

inductive Logged where
  | rebased
  | stamped (stamp : Stamp)
deriving DecidableEq

/-- The stamp of a packet; a point packet without samples has none. -/
def stamp (d : DataPath) (pkt : DataPacketView) (recvTimeNs : UInt64) : Option Stamp :=
  let (t0, time) := d.assembler.time.clock pkt.header recvTimeNs
  if pkt.header.dataType ≠ .kImu ∧ pkt.header.dotNum = 0 then none
  else some ⟨pkt.header, recvTimeNs, t0, d.assembler.time.measured time⟩

def step (d : DataPath) : Event → List Delivery × DataPath
  | .datagram data recvTimeNs => d.onDatagram data recvTimeNs
  | .requestRebase => ([], { d with rebaseRequested := true })
  | .requestDiscard => ([], { d with discardRequested := true })
  | .requestPolicy policy => ([], { d with policyPending := some policy })

/-- What the outcome of a step adds to the log. -/
def logged (d : DataPath) (e : Event) : List Logged :=
  (if d.rebaseRequested && !(d.step e).2.rebaseRequested then [.rebased] else []) ++
    (d.step e).1.filterMap fun
      | .packet pkt recvTimeNs => ((d.received recvTimeNs).stamp pkt recvTimeNs).map .stamped
      | _ => none

/-- The rebases and the stamped packets of a run. -/
def log (d : DataPath) : List Event → List Logged
  | [] => []
  | e :: events => d.logged e ++ log (d.step e).2 events

def exec (d : DataPath) (events : List Event) : DataPath :=
  events.foldl (fun d e => (d.step e).2) d

/-- The samples of a packet have the times that count from its stamp: those of the IMU are
delivered with them, and points, unless the packet is late, are at the end of the frame in
progress with their offsets from its base time, which is the stamp if they begin it. -/
def Timed (d : DataPath) (e : Event) (s : Stamp) : Prop :=
  ∃ pkt, .packet pkt s.recvTimeNs ∈ (d.step e).1 ∧ pkt.header = s.header ∧
    let samples := List.range pkt.header.dotNum.toNat
    if pkt.header.dataType = .kImu then
      (d.step e).1 = .packet pkt s.recvTimeNs :: samples.map fun i =>
        .imu ⟨FrameAssembler.sampleTime pkt.header s.t0 i, decodeImu pkt i⟩
    else (d.received s.recvTimeNs).assembler.accepts pkt s.recvTimeNs = true →
      let frame := (d.step e).2.assembler.cur
      ∃ kept, (kept = [] → frame.baseTimeNs = s.t0) ∧
        frame.points = kept ++ samples.map (FrameAssembler.framePoint pkt s.t0 frame.baseTimeNs)

/-! ## The clock behind the log -/

/-- A log that a clock makes: each packet has the time the clock gives it. -/
def Stamps (m : TimeMapper) : List Logged → Prop
  | [] => True
  | .rebased :: log => Stamps m.reset log
  | .stamped s :: log =>
    s.t0 = (m.clock s.header s.recvTimeNs).1 ∧
      s.measures = m.measured (m.clock s.header s.recvTimeNs).2 ∧
      Stamps (m.clock s.header s.recvTimeNs).2 log

/-- The requests of other threads reach the clock by a rebase only. -/
theorem consumeRequests_time (d : DataPath) :
    d.consumeRequests.assembler.time =
        (if d.rebaseRequested then d.assembler.time.reset else d.assembler.time) ∧
      d.consumeRequests.timestampPolicy = d.timestampPolicy := by
  have hdiscard : d.consumeDiscard.assembler.time = d.assembler.time ∧
      d.consumeDiscard.timestampPolicy = d.timestampPolicy ∧
      d.consumeDiscard.rebaseRequested = d.rebaseRequested := by
    unfold consumeDiscard
    split_ifs <;> exact ⟨rfl, rfl, rfl⟩
  have hrebase : ∀ d' : DataPath, d'.consumeRebase.assembler.time =
        (if d'.rebaseRequested then d'.assembler.time.reset else d'.assembler.time) ∧
      d'.consumeRebase.timestampPolicy = d'.timestampPolicy := by
    intro d'
    unfold consumeRebase
    split_ifs <;> exact ⟨rfl, rfl⟩
  have hpolicy : ∀ d' : DataPath, d'.consumePolicy.assembler.time = d'.assembler.time ∧
      d'.consumePolicy.timestampPolicy = d'.timestampPolicy := by
    intro d'
    unfold consumePolicy
    split <;> exact ⟨rfl, rfl⟩
  constructor
  · rw [consumeRequests, (hpolicy _).1, (hrebase _).1, hdiscard.1, hdiscard.2.2]
  · rw [consumeRequests, (hpolicy _).2, (hrebase _).2, hdiscard.2.1]

section Clock

variable {d : DataPath} {pkt : DataPacketView} {recvTimeNs : UInt64}

/-- An IMU packet is given its time by the clock. -/
theorem imuTime_eq_clock (hpolicy : d.timestampPolicy = d.assembler.time.policy)
    (himu : pkt.header.dataType = .kImu) :
    d.imuTime pkt.header recvTimeNs = d.assembler.time.clock pkt.header recvTimeNs := by
  simp only [imuTime, TimeMapper.clock, TimeMapper.pendingOffset, hpolicy, himu, decide_true,
    Bool.true_and]

/-- So is a point packet. -/
theorem map_eq_clock (hpoints : pkt.header.dataType ≠ .kImu) :
    d.assembler.time.map pkt.header recvTimeNs = d.assembler.time.clock pkt.header recvTimeNs := by
  simp [TimeMapper.clock, TimeMapper.pendingOffset, hpoints]

theorem map_policy (m : TimeMapper) (h : DataPacketHeader) (recvTimeNs : UInt64) :
    (m.map h recvTimeNs).2.policy = m.policy := by
  unfold TimeMapper.map
  split <;> try rfl
  split_ifs
  · rfl
  · dsimp only
    split <;> rfl

theorem clock_policy (m : TimeMapper) (h : DataPacketHeader) (recvTimeNs : UInt64) :
    (m.clock h recvTimeNs).2.policy = m.policy := by
  unfold TimeMapper.clock
  split_ifs
  · rfl
  · exact map_policy m h recvTimeNs

/-- An IMU packet moves the clock. -/
theorem onImu_time (hpolicy : d.timestampPolicy = d.assembler.time.policy)
    (himu : pkt.header.dataType = .kImu) :
    (d.onImu pkt recvTimeNs).2.assembler.time =
      (d.assembler.time.clock pkt.header recvTimeNs).2 := by
  rw [← imuTime_eq_clock hpolicy himu]
  rfl

/-- So does a point packet with samples. -/
theorem onPoints_time (hpoints : FrameAssembler.isIgnored pkt.header = false) :
    (d.onPoints pkt recvTimeNs).2.assembler.time =
      (d.assembler.time.clock pkt.header recvTimeNs).2 := by
  have hkind : pkt.header.dataType ≠ .kImu := by
    simp only [FrameAssembler.isIgnored, Bool.or_eq_false_iff, decide_eq_false_iff_not] at hpoints
    exact hpoints.1
  rw [← map_eq_clock hkind, ← FrameAssembler.push_clock hpoints]
  rfl

/-- **What a packet does to the clock**: nothing if it has no stamp, and otherwise what the
clock does with it. -/
theorem onSamples_time (pkt : DataPacketView) (recvTimeNs : UInt64)
    (hpolicy : d.timestampPolicy = d.assembler.time.policy) :
    (d.onSamples pkt recvTimeNs).2.assembler.time =
      if pkt.header.dataType ≠ .kImu ∧ pkt.header.dotNum = 0 then d.assembler.time
      else (d.assembler.time.clock pkt.header recvTimeNs).2 := by
  unfold onSamples
  by_cases himu : pkt.header.dataType = .kImu
  · rw [if_pos himu, if_neg fun h => h.1 himu]
    exact onImu_time hpolicy himu
  · rw [if_neg himu]
    split_ifs with hdots
    · have hignored : FrameAssembler.isIgnored pkt.header = true := by
        simp [FrameAssembler.isIgnored, hdots.2]
      show (d.assembler.push pkt recvTimeNs).2.time = _
      rw [FrameAssembler.push_ignored hignored]
    · have hpoints : FrameAssembler.isIgnored pkt.header = false := by
        simpa [FrameAssembler.isIgnored, himu] using hdots
      exact onPoints_time hpoints

theorem onSamples_timestampPolicy :
    (d.onSamples pkt recvTimeNs).2.timestampPolicy = d.timestampPolicy := by
  unfold onSamples
  split_ifs <;> rfl

end Clock

/-- A rebase that was requested reaches the clock before the packet does. -/
theorem received_time (d : DataPath) (recvTimeNs : UInt64) :
    (d.received recvTimeNs).assembler.time =
      if d.rebaseRequested then d.assembler.time.reset else d.assembler.time :=
  (consumeRequests_time _).1

variable {d : DataPath}

theorem received_policy (h : d.timestampPolicy = d.assembler.time.policy) (recvTimeNs : UInt64) :
    (d.received recvTimeNs).timestampPolicy = (d.received recvTimeNs).assembler.time.policy := by
  rw [received_time, received, (consumeRequests_time _).2]
  split_ifs <;> exact h

/-- The policy of the clock stays that of the device. -/
theorem step_policy (h : d.timestampPolicy = d.assembler.time.policy) (e : Event) :
    (d.step e).2.timestampPolicy = (d.step e).2.assembler.time.policy := by
  cases e with
  | requestRebase => exact h
  | requestDiscard => exact h
  | requestPolicy => exact h
  | datagram data recvTimeNs =>
    simp only [step, onDatagram]
    split
    · exact h
    · rename_i pkt _
      have hreceived := received_policy h recvTimeNs
      simp only [onPacket]
      rw [onSamples_timestampPolicy, hreceived, onSamples_time pkt recvTimeNs hreceived]
      split_ifs
      · rfl
      · rw [clock_policy]

theorem exec_policy (h : d.timestampPolicy = d.assembler.time.policy) (events : List Event) :
    (d.exec events).timestampPolicy = (d.exec events).assembler.time.policy := by
  induction events generalizing d with
  | nil => exact h
  | cons e events ih => exact ih (step_policy h e)

/-! ## What a step logs -/

section Steps

variable {d : DataPath} {data : List UInt8} {pkt : DataPacketView} {recvTimeNs : UInt64}

theorem received_rebaseRequested (d : DataPath) (recvTimeNs : UInt64) :
    (d.received recvTimeNs).rebaseRequested = false := by
  unfold received consumeRequests consumePolicy consumeRebase
  split <;> split_ifs with hrebase <;> first | rfl | exact Bool.eq_false_iff.mpr hrebase

/-- A datagram that is parsed logs the rebase that was due and the stamp of its packet. -/
theorem logged_packet (hparse : parseDataPacket data d.verifyCrc = .ok pkt) :
    d.logged (.datagram data recvTimeNs) =
      (if d.rebaseRequested then [.rebased] else []) ++
        (((d.received recvTimeNs).stamp pkt recvTimeNs).map .stamped).toList := by
  have hstep : d.step (.datagram data recvTimeNs) = d.onPacket pkt recvTimeNs := by
    rw [step, onDatagram, hparse]
  have hrebase : (d.onPacket pkt recvTimeNs).2.rebaseRequested = false := by
    rw [← received_rebaseRequested d recvTimeNs]
    simp only [onPacket, onSamples]
    split_ifs <;> rfl
  have hothers : ∀ f : Delivery → Option Logged,
      (∀ x, f (.imu x) = none) → (∀ x, f (.frame x) = none) →
      ((d.received recvTimeNs).onSamples pkt recvTimeNs).1.filterMap f = [] := by
    intro f himu hframe
    unfold onSamples
    split_ifs
    · simp [onImu, himu]
    · simp [onPoints, hframe]
  rw [logged, hstep, hrebase, Bool.not_false, Bool.and_true]
  simp only [onPacket, List.filterMap_cons]
  rw [hothers _ (fun _ => rfl) fun _ => rfl]
  cases (d.received recvTimeNs).stamp pkt recvTimeNs <;> rfl

/-- A datagram that is not parsed logs nothing. -/
theorem logged_error {err : ParseError} (hparse : parseDataPacket data d.verifyCrc = .error err) :
    d.logged (.datagram data recvTimeNs) = [] := by
  rw [logged, step, onDatagram, hparse]
  simp

/-- The points that `push` takes are at the end of the frame in progress. -/
theorem push_points {s : FrameAssembler} (h : s.accepts pkt recvTimeNs = true) :
    let t0 := (s.time.map pkt.header recvTimeNs).1
    let frame := (s.push pkt recvTimeNs).2.cur
    ∃ kept, (kept = [] → frame.baseTimeNs = t0) ∧
      frame.points = kept ++ (List.range pkt.header.dotNum.toNat).map
        (FrameAssembler.framePoint pkt t0 frame.baseTimeNs) := by
  have hbase : ∀ (s' : FrameAssembler) (t0 : UInt64) (onGrid : Bool),
      (s'.openFrame pkt.header t0 onGrid).cur.points = [] →
        (s'.openFrame pkt.header t0 onGrid).cur.baseTimeNs = t0 := by
    intro s' t0 onGrid
    by_cases hnone : s'.cur.points = []
    · rw [FrameAssembler.openFrame, if_pos hnone]
      exact fun _ => rfl
    · rw [FrameAssembler.openFrame, if_neg hnone]
      exact fun hpoints => absurd hpoints hnone
  rw [FrameAssembler.push_accepted h]
  -- `accept` ends with `openFrame` and `book`
  exact ⟨_, hbase _ _ _, rfl⟩

/-- **The samples of a packet have the times that count from its stamp.** -/
theorem step_timed (hpolicy : d.timestampPolicy = d.assembler.time.policy) {e : Event}
    {s : Stamp} (hs : .stamped s ∈ d.logged e) : d.Timed e s := by
  cases e with
  | requestRebase | requestDiscard | requestPolicy => simp [logged, step] at hs
  | datagram data recvTimeNs =>
    cases hparse : parseDataPacket data d.verifyCrc with
    | error => simp [logged_error hparse] at hs
    | ok pkt =>
      have hstep : d.step (.datagram data recvTimeNs) = d.onPacket pkt recvTimeNs := by
        rw [step, onDatagram, hparse]
      have hstamp : (d.received recvTimeNs).stamp pkt recvTimeNs = some s := by
        rw [logged_packet hparse] at hs
        split_ifs at hs <;> simpa using hs
      dsimp only [stamp] at hstamp
      split_ifs at hstamp
      cases hstamp
      have hreceived := received_policy hpolicy recvTimeNs
      refine ⟨pkt, ?_, rfl, ?_⟩
      · rw [hstep]
        exact List.mem_cons_self
      · rw [hstep]
        simp only [onPacket, onSamples]
        split_ifs with himu
        · rw [← imuTime_eq_clock hreceived himu]
          rfl
        · intro haccepts
          rw [← map_eq_clock himu]
          exact push_points haccepts

/-- **The log of a run is one the clock makes.** -/
theorem stamps_run (h : d.timestampPolicy = d.assembler.time.policy) (events : List Event) :
    Stamps d.assembler.time (d.log events) := by
  induction events generalizing d with
  | nil => exact trivial
  | cons e events ih =>
    have hrest := ih (step_policy h e)
    cases e with
    | requestRebase | requestDiscard | requestPolicy =>
      simpa [log, logged, step] using hrest
    | datagram data recvTimeNs =>
      rw [log]
      cases hparse : parseDataPacket data d.verifyCrc with
      | error =>
        rw [step, onDatagram, hparse] at hrest ⊢
        rw [logged_error hparse]
        exact hrest
      | ok pkt =>
        rw [step, onDatagram, hparse] at hrest ⊢
        have htime := onSamples_time pkt recvTimeNs (received_policy h recvTimeNs)
        have hpacket : Stamps (d.received recvTimeNs).assembler.time
            ((((d.received recvTimeNs).stamp pkt recvTimeNs).map .stamped).toList ++
              log (d.onPacket pkt recvTimeNs).2 events) := by
          dsimp only [stamp]
          split_ifs at htime ⊢
          · rw [← htime]
            exact hrest
          · refine ⟨rfl, rfl, ?_⟩
            rw [← htime]
            exact hrest
        rw [received_time] at hpacket
        rw [logged_packet hparse]
        cases hrebase : d.rebaseRequested with
        | false | true =>
          rw [hrebase] at hpacket
          exact hpacket

end Steps

/-! ## Unsynchronised stretches -/

/-- What a stretch of unsynchronised packets can follow. -/
def Logged.isBoundary : Logged → Bool
  | .rebased => true
  | .stamped s => s.header.timeType ≠ .kNoSync

/-- An IMU packet before the offset of its stretch: it has its own receive time. -/
def Stamp.Pending (s : Stamp) : Prop :=
  s.header.dataType = .kImu ∧ s.t0 = s.recvTimeNs ∧ s.measures = false

/-- The packet that measures the offset of its stretch. -/
def Stamp.Measuring (s : Stamp) : Prop :=
  s.t0 = s.recvTimeNs ∧ s.measures = true

/-- A packet that is stamped with the offset another one measured. -/
def Stamp.Follows (s measuring : Stamp) : Prop :=
  s.t0 - s.header.timestampNs = measuring.recvTimeNs - measuring.header.timestampNs ∧
    s.measures = false

/-- At most one packet measures: those before it are pending, those after it follow it. -/
inductive OneOffset : List Stamp → Prop
  | pending {stretch : List Stamp} (h : ∀ s ∈ stretch, s.Pending) : OneOffset stretch
  | measured {before after : List Stamp} {s : Stamp} (hbefore : ∀ b ∈ before, b.Pending)
      (hs : s.Measuring) (hafter : ∀ a ∈ after, a.Follows s) :
      OneOffset (before ++ s :: after)

/-- A clock that is to measure at the next point packet. -/
structure Fresh (m : TimeMapper) : Prop where
  policy : m.policy = .kHostOffsetOnce
  again : m.offset = none ∨ m.synced = true

/-- A clock that `s` measured the offset of. -/
structure MeasuredBy (s : Stamp) (m : TimeMapper) : Prop where
  policy : m.policy = .kHostOffsetOnce
  offset : m.offset = some (s.recvTimeNs.toInt64 - s.header.timestampNs.toInt64)
  synced : m.synced = false

section Stretches

variable {m : TimeMapper} {log post : List Logged} {s : Stamp}

/-- Subtracting and adding a timestamp on signed words is the same on unsigned ones. -/
theorem toUInt64_add_sub (a b c : UInt64) :
    (a.toInt64 + (b.toInt64 - c.toInt64)).toUInt64 = a + (b - c) := by
  rw [Int64.toUInt64_add, Int64.toUInt64_sub]
  rfl

/-- A synchronised packet keeps its timestamp, and the offset is measured again. -/
theorem clock_synced (hm : m.policy = .kHostOffsetOnce) (h : s.header.timeType ≠ .kNoSync) :
    m.clock s.header s.recvTimeNs = (s.header.timestampNs, { m with synced := true }) := by
  simp [TimeMapper.clock, TimeMapper.pendingOffset, TimeMapper.map, hm, h]

/-- An unsynchronised packet at a fresh clock is pending or measures. -/
theorem Fresh.stamped (hm : Fresh m) (hsync : s.header.timeType = .kNoSync)
    (hlog : Stamps m (.stamped s :: log)) :
    (s.Pending ∧ Stamps m log) ∨ (s.Measuring ∧ ∃ m', MeasuredBy s m' ∧ Stamps m' log) := by
  obtain ⟨ht0, hmeasures, hrest⟩ := hlog
  by_cases hpending : m.pendingOffset s.header = true
  · left
    rw [TimeMapper.clock, if_pos hpending] at ht0 hmeasures hrest
    simp only [TimeMapper.pendingOffset, Bool.and_eq_true, decide_eq_true_eq,
      Option.isNone_iff_eq_none] at hpending
    refine ⟨⟨hpending.1.1.1, ht0, ?_⟩, hrest⟩
    simp [hmeasures, TimeMapper.measured, hpending.1.2]
  · right
    have hmap : m.map s.header s.recvTimeNs = ((s.header.timestampNs.toInt64 +
        (s.recvTimeNs.toInt64 - s.header.timestampNs.toInt64)).toUInt64,
        { m with
          offset := some (s.recvTimeNs.toInt64 - s.header.timestampNs.toInt64)
          synced := false }) := by
      rcases hm.again with h | h <;> simp [TimeMapper.map, hm.policy, hsync, h]
    rw [TimeMapper.clock, if_neg hpending, hmap] at ht0 hmeasures hrest
    rw [toUInt64_add_sub, UInt64.add_comm, UInt64.sub_add_cancel] at ht0
    have hagain : s.measures = true := by
      rcases hm.again with h | h <;> simp [hmeasures, TimeMapper.measured, h]
    refine ⟨⟨ht0, hagain⟩, _, ?_, hrest⟩
    exact ⟨hm.policy, rfl, rfl⟩

/-- A later one follows the packet that measured. -/
theorem MeasuredBy.stamped {measuring : Stamp} (hm : MeasuredBy measuring m)
    (hsync : s.header.timeType = .kNoSync) (hlog : Stamps m (.stamped s :: log)) :
    s.Follows measuring ∧ Stamps m log := by
  obtain ⟨ht0, hmeasures, hrest⟩ := hlog
  have hpending : m.pendingOffset s.header = false := by
    simp [TimeMapper.pendingOffset, hm.offset]
  have hclock : m.clock s.header s.recvTimeNs = ((s.header.timestampNs.toInt64 +
      (measuring.recvTimeNs.toInt64 - measuring.header.timestampNs.toInt64)).toUInt64, m) := by
    simp [TimeMapper.clock, hpending, TimeMapper.map, hm.policy, hsync, hm.offset, hm.synced]
  rw [hclock] at ht0 hmeasures hrest
  have hagain : s.measures = false := by
    simp [hmeasures, TimeMapper.measured, hm.offset, hm.synced]
  refine ⟨⟨?_, hagain⟩, hrest⟩
  rw [ht0, toUInt64_add_sub, UInt64.add_comm, UInt64.add_sub_cancel]

/-- After the packet that measures, the rest of the stretch follows it. -/
theorem MeasuredBy.follows {measuring : Stamp} (hm : MeasuredBy measuring m)
    {stretch : List Stamp} (hsync : ∀ s ∈ stretch, s.header.timeType = .kNoSync)
    (hlog : Stamps m (stretch.map .stamped ++ post)) :
    ∀ s ∈ stretch, s.Follows measuring := by
  induction stretch with
  | nil => simp
  | cons s stretch ih =>
    obtain ⟨hs, hrest⟩ := hm.stamped (hsync s List.mem_cons_self) hlog
    rw [List.forall_mem_cons]
    exact ⟨hs, ih (fun a mem => hsync a (List.mem_cons_of_mem _ mem)) hrest⟩

/-- **One stretch.**  From a fresh clock on, at most one packet measures. -/
theorem Fresh.oneOffset (hm : Fresh m) {stretch : List Stamp}
    (hsync : ∀ s ∈ stretch, s.header.timeType = .kNoSync)
    (hlog : Stamps m (stretch.map .stamped ++ post)) : OneOffset stretch := by
  induction stretch with
  | nil => exact .pending (by simp)
  | cons s stretch ih =>
    have hrest : ∀ a ∈ stretch, a.header.timeType = .kNoSync :=
      fun a mem => hsync a (List.mem_cons_of_mem _ mem)
    obtain ⟨hs, hlog⟩ | ⟨hs, m', hm', hlog⟩ := hm.stamped (hsync s List.mem_cons_self) hlog
    · cases ih hrest hlog with
      | pending h => exact .pending (List.forall_mem_cons.mpr ⟨hs, h⟩)
      | measured hbefore hmeasuring hafter =>
        rw [← List.cons_append]
        exact .measured (List.forall_mem_cons.mpr ⟨hs, hbefore⟩) hmeasuring hafter
    · have hnone : ∀ b ∈ ([] : List Stamp), b.Pending := by simp
      rw [← List.nil_append (s :: stretch)]
      exact .measured hnone hs (hm'.follows hrest hlog)

/-- A stretch starts with a fresh clock. -/
theorem fresh_of_boundary {pre : List Logged} (hm : m.policy = .kHostOffsetOnce)
    (hstart : pre = [] → Fresh m) (hpre : ∀ e ∈ pre.getLast?, e.isBoundary = true)
    (hlog : Stamps m (pre ++ post)) : ∃ m', Fresh m' ∧ Stamps m' post := by
  induction pre generalizing m with
  | nil => exact ⟨m, hstart rfl, hlog⟩
  | cons e pre ih =>
    have hlast : ∀ e' ∈ pre.getLast?, e'.isBoundary = true := by
      intro e' mem
      refine hpre e' ?_
      rw [List.getLast?_cons]
      simp_all
    have hhead : pre = [] → e.isBoundary = true := by
      rintro rfl
      exact hpre e rfl
    cases e with
    | rebased =>
      have hreset : Fresh m.reset := ⟨hm, .inl rfl⟩
      exact ih hreset.policy (fun _ => hreset) hlast hlog
    | stamped s =>
      obtain ⟨-, -, hrest⟩ := hlog
      refine ih ((clock_policy m _ _).trans hm) (fun h => ?_) hlast hrest
      have hsync : s.header.timeType ≠ .kNoSync := of_decide_eq_true (hhead h)
      rw [clock_synced hm hsync]
      exact ⟨hm, .inr rfl⟩

/-- A synchronised packet is stamped with its own timestamp. -/
theorem Stamps.synced (hm : m.policy = .kHostOffsetOnce) (hlog : Stamps m log)
    (hs : .stamped s ∈ log) (hsync : s.header.timeType ≠ .kNoSync) :
    s.t0 = s.header.timestampNs := by
  induction log generalizing m with
  | nil => exact absurd hs List.not_mem_nil
  | cons e log ih =>
    cases e with
    | rebased =>
      have hreset : m.reset.policy = .kHostOffsetOnce := hm
      exact ih hreset hlog (by simpa using hs)
    | stamped =>
      obtain ⟨ht0, -, hrest⟩ := hlog
      rcases List.mem_cons.mp hs with h | h
      · obtain rfl := Logged.stamped.inj h
        rw [ht0, clock_synced hm hsync]
      · exact ih ((clock_policy m _ _).trans hm) hrest h

end Stretches

/-- **One offset for each unsynchronised stretch.**  With `kHostOffsetOnce`, in every run
of the receive thread a synchronised packet is stamped with its own timestamp, and in a
stretch of unsynchronised packets that starts at a rebase, at a synchronised packet or at
the beginning at most one packet measures.  That packet is stamped with its receive time,
those before it are IMU packets stamped with their own, and those after it have its
offset.  The samples of every packet that is stamped have the times that count from its
stamp. -/
theorem one_offset_per_stretch (verifyCrc : Bool) (framePolicy : FramePolicy)
    (events : List Event) :
    let start := new verifyCrc framePolicy .kHostOffsetOnce
    let log := start.log events
    (∀ before e after, events = before ++ e :: after →
      ∀ s, .stamped s ∈ (start.exec before).logged e → (start.exec before).Timed e s) ∧
    (∀ s, .stamped s ∈ log → s.header.timeType ≠ .kNoSync → s.t0 = s.header.timestampNs) ∧
    ∀ (pre post : List Logged) (stretch : List Stamp),
      log = pre ++ (stretch.map .stamped ++ post) →
      (∀ e ∈ pre.getLast?, e.isBoundary = true) →
      (∀ s ∈ stretch, s.header.timeType = .kNoSync) → OneOffset stretch := by
  intro start log
  have hlog : Stamps start.assembler.time log := stamps_run rfl events
  refine ⟨?_, ?_, ?_⟩
  · intro before e after _ s hs
    exact step_timed (exec_policy rfl before) hs
  · intro s hs hsync
    exact hlog.synced rfl hs hsync
  · intro pre post stretch hsplit hpre hsync
    rw [hsplit] at hlog
    obtain ⟨m, hm, hstretch⟩ := fresh_of_boundary rfl (fun _ => ⟨rfl, .inl rfl⟩) hpre hlog
    exact hm.oneOffset hsync hstretch

/-- A data packet of one sample without a CRC, of a LiDAR that is not synchronised. -/
def unsyncedPacket (dataType sampleSize timestamp : UInt8) : List UInt8 :=
  [0, 36 + sampleSize, 0, 0, 0, 1, 0, 0, 0, 0, dataType, 0] ++ List.replicate 16 0 ++
    [timestamp, 0, 0, 0, 0, 0, 0, 0] ++ List.replicate sampleSize.toNat 0

/-- The IMU is there before the first points are. -/
def imuFirst : List Event :=
  [.datagram (unsyncedPacket 0 24 10) 100, .requestRebase, .datagram (unsyncedPacket 0 24 20) 110,
    .datagram (unsyncedPacket 1 14 30) 125, .datagram (unsyncedPacket 0 24 40) 130]

/-- After the rebase the first IMU packet has its receive time, the points measure, and the
second IMU packet has their offset. -/
def imuStretch : List Stamp :=
  [⟨readDataPacketHeader (unsyncedPacket 0 24 20), 110, 110, false⟩,
    ⟨readDataPacketHeader (unsyncedPacket 1 14 30), 125, 125, true⟩,
    ⟨readDataPacketHeader (unsyncedPacket 0 24 40), 130, 135, false⟩]

theorem one_offset_per_stretch_imuFirst :
    (new false {} .kHostOffsetOnce).log imuFirst =
        [.stamped ⟨readDataPacketHeader (unsyncedPacket 0 24 10), 100, 100, false⟩, .rebased] ++
          (imuStretch.map .stamped ++ []) ∧
      OneOffset imuStretch ∧
      ((new false {} .kHostOffsetOnce).exec (imuFirst.take 4)).Timed
        (.datagram (unsyncedPacket 0 24 40) 130)
        ⟨readDataPacketHeader (unsyncedPacket 0 24 40), 130, 135, false⟩ := by
  have hlog : (new false {} .kHostOffsetOnce).log imuFirst =
      [.stamped ⟨readDataPacketHeader (unsyncedPacket 0 24 10), 100, 100, false⟩, .rebased] ++
        (imuStretch.map .stamped ++ []) := by
    decide +kernel
  obtain ⟨htimed, -, hstretch⟩ := one_offset_per_stretch false {} imuFirst
  refine ⟨hlog, hstretch _ _ _ hlog ?_ ?_, htimed _ _ [] rfl _ ?_⟩
  · simp [Logged.isBoundary]
  · decide +kernel
  · decide +kernel

end DataPath

end LivoxMid360
