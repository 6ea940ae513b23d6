import LivoxMid360.Device.Datagram
import LivoxMid360.Device.Push
import LivoxMid360.FrameAssembler.Conservation

/-!
# The counters of a device

`DeviceStats` is a snapshot of counters that the receive thread writes.  Some it counts up
itself; the others are copied from the assembler by `publish_assembler_counters`, when a
packet has been processed and when a tick has closed a frame.

`Receiver` is the receive thread with its ticks and what other threads ask of it:
`stop_sampling`, `set_frame_policy`, a lost connection and a new one.  `Ledger` runs it and
keeps the calls of the callbacks.

* `Emits` says what the assembler does to its counters when it takes a packet or gives a
  frame out: every point counted is in a frame that went out or in the frame in progress.
* `Booked` is the invariant: so it is for the calls made so far, and all counters but
  `points` are up to date.
* `stats_account_for_deliveries` — **what the counters say.**  All of them but `points` never
  decrease, and `frames` is the number of frames delivered.  In a run whose steps throw no
  points away (`KeepsPoints`), `points` never decreases either, and it is the number of
  points delivered and in progress.  There are none in progress once a tick has closed the
  frame and no point packet has come since (`Settled`).

`points` counts the points of the frame in progress, which `discard` takes off again.  So it
decreases when such a frame is thrown away: `points_of_a_stopped_frame` is such a run.
-/

namespace LivoxMid360

open DataPath (Delivery unsyncedPacket)

/-- The counters of `DeviceStats` that the data ports move. -/
structure DeviceStats where
  packets : ℕ
  points : ℕ
  frames : ℕ
  imuSamples : ℕ
  badPackets : ℕ
  droppedPackets : ℕ
  reordered : ℕ
  frameCntFallback : ℕ
  typeSwitchGaps : ℕ
deriving DecidableEq

/-! ## The receive thread -/

/-- The receive thread of a Device.  Time points of the steady clock and durations are in
nanoseconds. -/
structure Receiver extends DataPath where
  push : PushState
  connected : Bool := true
  pushTimeout : Int64
  idleWindow : Int64
  lastPointPacket : Int64 := 0

namespace Receiver

/-- The receive thread of a device that was opened at `now`. -/
def new (verifyCrc : Bool) (framePolicy : FramePolicy) (timestampPolicy : TimestampPolicy)
    (pushTimeout now : Int64) : Receiver where
  toDataPath := .new verifyCrc framePolicy timestampPolicy
  push := { lastPushSteadyNs := now }
  pushTimeout
  idleWindow := framePolicy.window

variable (r : Receiver)

/-- `snapshot`. -/
def snapshot : DeviceStats where
  packets := r.packets
  points := r.published.points
  frames := r.published.frames
  imuSamples := r.imuSamples
  badPackets := r.badPackets + r.push.badPackets
  droppedPackets := r.published.droppedPackets
  reordered := r.published.reordered
  frameCntFallback := r.published.frameCntFallback
  typeSwitchGaps := r.published.typeSwitchGaps

/-- `idle_window` once `consume_requests` has taken a new policy. -/
def nextIdleWindow : Int64 :=
  match r.policyPending with
  | some policy => policy.window
  | none => r.idleWindow

/-- `on_datagram` for the data ports, `Clock::now()` being `now`. -/
def onDatagram (data : List UInt8) (recvTimeNs : UInt64) (now : Int64) : List Delivery × Receiver :=
  let (out, d) := r.toDataPath.onDatagram data recvTimeNs
  match parseDataPacket data r.verifyCrc with
  | .error _ => (out, { r with toDataPath := d })
  | .ok pkt =>
    (out,
      { r with
        toDataPath := d
        idleWindow := r.nextIdleWindow
        lastPointPacket := if pkt.header.dataType = .kImu then r.lastPointPacket else now })

/-- `on_datagram` for the push port. -/
def onPush (d : PushDatagram) : Receiver :=
  let push := { r.push with rebaseRequested := r.rebaseRequested }.onPush
    { d with connected := r.connected }
  { r with push, rebaseRequested := push.rebaseRequested }

/-- `declare_disconnected`. -/
def declareDisconnected : Receiver :=
  if r.connected then { r with connected := false, discardRequested := true } else r

/-- `connection_tick`: a push that is overdue. -/
def connectionTick (now : Int64) : Receiver :=
  if r.connected ∧ now ≥ r.push.lastPushSteadyNs + r.pushTimeout then r.declareDisconnected else r

/-- `consume_requests`. -/
def consumeRequests : Receiver :=
  { r with toDataPath := r.toDataPath.consumeRequests, idleWindow := r.nextIdleWindow }

/-- `deliver(assembler.flush())`. -/
def closeIdleFrame : List Delivery × Receiver :=
  let (frame, assembler) := r.assembler.flush
  (frame.toList.map .frame,
    { r with toDataPath := DataPath.publishAssemblerCounters { r.toDataPath with assembler } })

/-- `tick`. -/
def tick (now : Int64) : List Delivery × Receiver :=
  let r := (r.connectionTick now).consumeRequests
  if r.assembler.cur.points ≠ [] ∧ now ≥ r.lastPointPacket + r.idleWindow then r.closeIdleFrame
  else ([], r)

inductive Action where
  | datagram (data : List UInt8) (recvTimeNs : UInt64) (now : Int64)
  | push (d : PushDatagram)
  | tick (now : Int64)
  /-- A `stop_sampling` that the LiDAR acknowledged. -/
  | stopSampling
  | setFramePolicy (policy : FramePolicy)
  /-- Another thread finds the connection lost. -/
  | disconnect
  /-- The connection is there again, at `now`. -/
  | reconnect (now : Int64)

/-- What one action does, and the calls of the data callbacks it makes. -/
def step : Action → List Delivery × Receiver
  | .datagram data recvTimeNs now => r.onDatagram data recvTimeNs now
  | .push d => ([], r.onPush d)
  | .tick now => r.tick now
  | .stopSampling => ([], { r with discardRequested := true })
  | .setFramePolicy policy =>
    ([], if policy.window ≤ 0 then r else { r with policyPending := some policy })
  | .disconnect => ([], r.declareDisconnected)
  | .reconnect now =>
    ([],
      { r with
        rebaseRequested := true
        push := { r.push with lastPushSteadyNs := now }
        connected := true })

/-- The action is a datagram with a point packet. -/
def bringsPoints : Action → Bool
  | .datagram data _ _ =>
    match parseDataPacket data r.verifyCrc with
    | .error _ => false
    | .ok pkt => pkt.header.dataType != .kImu
  | _ => false

/-- The points of the frame in progress that an action throws away. -/
def discards : Action → ℕ
  | .datagram data _ _ =>
    match parseDataPacket data r.verifyCrc with
    | .error _ => 0
    | .ok _ => if r.discardRequested then r.assembler.cur.points.length else 0
  | .tick now =>
    if (r.connectionTick now).discardRequested then r.assembler.cur.points.length else 0
  | _ => 0

end Receiver

/-- A receive thread, and the calls of the data callbacks so far. -/
structure Ledger extends Receiver where
  delivered : List Delivery := []

namespace Ledger

def step (l : Ledger) (a : Receiver.Action) : Ledger where
  toReceiver := (l.toReceiver.step a).2
  delivered := l.delivered ++ (l.toReceiver.step a).1

def exec (l : Ledger) (actions : List Receiver.Action) : Ledger :=
  actions.foldl step l

/-- No step throws points away. -/
def KeepsPoints (l : Ledger) : List Receiver.Action → Prop
  | [] => True
  | a :: actions => l.discards a = 0 ∧ (l.step a).KeepsPoints actions

/-- No step brings points. -/
def BringsNone (l : Ledger) : List Receiver.Action → Prop
  | [] => True
  | a :: actions => l.bringsPoints a = false ∧ (l.step a).BringsNone actions

/-- A tick has closed the frame in progress, or there never was one, and after that no point
packet arrives. -/
def Settled (l : Ledger) (actions : List Receiver.Action) : Prop :=
  ∃ before after, actions = before ++ after ∧
    (before = [] ∨ ∃ init now, before = init ++ [.tick now] ∧ ((l.exec init).tick now).1 ≠ []) ∧
    (l.exec before).BringsNone after

end Ledger

/-- The frames among the calls. -/
def framesOf (out : List Delivery) : List Frame :=
  out.filterMap fun
    | .frame frame => some frame
    | _ => none

/-- The points of some frames. -/
def pointsIn (frames : List Frame) : ℕ :=
  (frames.map fun frame => frame.points.length).sum

theorem framesOf_append (out out' : List Delivery) :
    framesOf (out ++ out') = framesOf out ++ framesOf out' :=
  List.filterMap_append

@[simp] theorem framesOf_map_frame (frames : List Frame) :
    framesOf (frames.map .frame) = frames := by
  simp [framesOf, List.filterMap_map]

theorem framesOf_packet (pkt : DataPacketView) (hostTimeNs : UInt64) (out : List Delivery) :
    framesOf (.packet pkt hostTimeNs :: out) = framesOf out := rfl

theorem pointsIn_append (frames frames' : List Frame) :
    pointsIn (frames ++ frames') = pointsIn frames + pointsIn frames' := by
  simp [pointsIn]

/-! ## The assembler -/

namespace FrameAssembler

/-- The frames `out` leave the assembler, and it counts on. -/
structure Emits (s : FrameAssembler) (out : List Frame) (s' : FrameAssembler) : Prop where
  frames : s'.counters.frames = s.counters.frames + out.length
  /-- What is counted is in a frame that left or in the frame in progress. -/
  balance : s'.counters.points + s.cur.points.length =
    s.counters.points + (pointsIn out + s'.cur.points.length)
  points : s.counters.points ≤ s'.counters.points
  droppedPackets : s.counters.droppedPackets ≤ s'.counters.droppedPackets
  reordered : s.counters.reordered ≤ s'.counters.reordered
  frameCntFallback : s.counters.frameCntFallback ≤ s'.counters.frameCntFallback
  typeSwitchGaps : s.counters.typeSwitchGaps ≤ s'.counters.typeSwitchGaps

/-- A change of what is not counted. -/
theorem Emits.of_eq {s s' : FrameAssembler} (hcounters : s'.counters = s.counters)
    (hcur : s'.cur = s.cur) : Emits s [] s' := by
  constructor <;> simp [hcounters, hcur, pointsIn]

theorem Emits.trans_nil {s s' s'' : FrameAssembler} {out : List Frame} (h : Emits s [] s')
    (h' : Emits s' out s'') : Emits s out s'' where
  frames := by rw [h'.frames, h.frames, List.length_nil, Nat.add_zero]
  balance := by
    have h₁ := h.balance
    have h₂ := h'.balance
    have hnil : pointsIn [] = 0 := rfl
    omega
  points := h.points.trans h'.points
  droppedPackets := h.droppedPackets.trans h'.droppedPackets
  reordered := h.reordered.trans h'.reordered
  frameCntFallback := h.frameCntFallback.trans h'.frameCntFallback
  typeSwitchGaps := h.typeSwitchGaps.trans h'.typeSwitchGaps

variable (s : FrameAssembler)

theorem emits_observe (h : DataPacketHeader) (recvTimeNs : UInt64) :
    Emits s [] (s.observe h recvTimeNs).2 := by
  constructor <;> simp [observe, pointsIn]

/-- Of the other counters an accepted packet moves that of the fallback only. -/
theorem accept_counts (pkt : DataPacketView) (o : Observation) :
    s.counters.frameCntFallback ≤ (s.accept pkt o).2.counters.frameCntFallback ∧
      (s.accept pkt o).2.counters.typeSwitchGaps = s.counters.typeSwitchGaps := by
  have htrack : s.counters.frameCntFallback ≤ (s.trackFallback o).counters.frameCntFallback ∧
      (s.trackFallback o).counters.typeSwitchGaps = s.counters.typeSwitchGaps := by
    unfold trackFallback
    dsimp only
    split_ifs
    · exact ⟨Nat.le_refl _, rfl⟩
    · exact ⟨Nat.le_succ _, rfl⟩
    · exact ⟨Nat.le_refl _, rfl⟩
    · exact ⟨Nat.le_refl _, rfl⟩
  have hopen : ∀ (s' : FrameAssembler) (onGrid : Bool),
      ((s'.openFrame pkt.header o.t0 onGrid).book pkt o).counters.typeSwitchGaps =
        s'.counters.typeSwitchGaps := by
    intro s' onGrid
    rw [book_counters, (s'.openFrame_keeps pkt.header o.t0 onGrid).2.2.2.2]
  have hstate : (s.accept pkt o).2 = (((s.trackFallback o).closeFrame pkt.header o).2.2.openFrame
      pkt.header o.t0 ((s.trackFallback o).closeFrame pkt.header o).2.1).book pkt o := rfl
  refine ⟨htrack.1.trans (accept_tracks s pkt o).frameCntFallback.ge, ?_⟩
  rw [hstate, hopen]
  obtain ⟨-, hsame⟩ | ⟨-, -, htaken⟩ := (s.trackFallback o).closeFrame_cases pkt.header o
  · rw [hsame]
    exact htrack.2
  · rw [htaken]
    exact htrack.2

theorem emits_accept (pkt : DataPacketView) (o : Observation) :
    Emits s (s.accept pkt o).1.toList (s.accept pkt o).2 := by
  obtain ⟨-, hpoints, hdropped, hout⟩ := s.accept_cases pkt o
  obtain ⟨hfallback, hswitch⟩ := s.accept_counts pkt o
  have hreordered := (s.accept_tracking o pkt).2.1
  refine ⟨?_, ?_, by omega, hdropped.ge, hreordered.ge, hfallback, hswitch.ge⟩
  · obtain ⟨hnone, -, -, hframes⟩ | ⟨hsome, -, -, hframes⟩ := hout
    · rw [hframes, hnone]
      rfl
    · rw [hframes, hsome]
      rfl
  · obtain ⟨hnone, hmerged, -⟩ | ⟨hsome, hmerged, -⟩ := hout
    · have hlength := hmerged.points_length
      have hnil : pointsIn [] = 0 := rfl
      rw [hnone, Option.toList_none]
      omega
    · have hlength := hmerged.points_length
      have htaken : pointsIn [s.takeFrame.1] = s.cur.points.length := by
        simp [pointsIn, takeFrame]
      rw [List.length_nil] at hlength
      rw [hsome, Option.toList_some]
      omega

/-- **A packet** is counted, and may let a frame out. -/
theorem emits_push (pkt : DataPacketView) (recvTimeNs : UInt64) :
    Emits s (s.push pkt recvTimeNs).1.toList (s.push pkt recvTimeNs).2 := by
  cases haccepts : s.accepts pkt recvTimeNs with
  | true =>
    rw [push_accepted haccepts]
    exact (emits_observe s pkt.header recvTimeNs).trans_nil (emits_accept _ pkt _)
  | false =>
    obtain hignored | ⟨hpoints, hlate⟩ := not_accepts_cases haccepts
    · rw [push_ignored hignored]
      exact .of_eq rfl rfl
    · rw [push_late hpoints hlate]
      exact emits_observe s pkt.header recvTimeNs

/-- A flush lets the frame in progress out. -/
theorem emits_flush : Emits s s.flush.1.toList s.flush.2 := by
  unfold flush
  split_ifs
  · exact .of_eq rfl rfl
  · constructor <;> simp [takeFrame, pointsIn]

end FrameAssembler

/-! ## The requests of other threads -/

namespace DataPath

/-- `d'` has the counters of `d`, but for those of the assembler. -/
structure SameCounts (d d' : DataPath) : Prop where
  packets : d'.packets = d.packets
  badPackets : d'.badPackets = d.badPackets
  imuSamples : d'.imuSamples = d.imuSamples
  imuDropped : d'.imuDropped = d.imuDropped
  imuReordered : d'.imuReordered = d.imuReordered
  published : d'.published = d.published

theorem consumeRequests_sameCounts (d : DataPath) : SameCounts d d.consumeRequests := by
  unfold consumeRequests consumePolicy consumeRebase consumeDiscard
  split <;> split_ifs <;> exact ⟨rfl, rfl, rfl, rfl, rfl, rfl⟩

/-- **What the requests do to the points**: those of the frame in progress are taken off
again if it is discarded. -/
theorem consumeRequests_cases (d : DataPath) :
    (d.discardRequested = false ∧ d.consumeRequests.assembler.cur = d.assembler.cur ∧
        d.consumeRequests.assembler.counters = d.assembler.counters) ∨
      (d.discardRequested = true ∧ d.consumeRequests.assembler.cur.points = [] ∧
        d.consumeRequests.assembler.counters = { d.assembler.counters with
          points := d.assembler.counters.points - d.assembler.cur.points.length }) := by
  have hlater : ∀ d' : DataPath,
      d'.consumeRebase.consumePolicy.assembler.cur = d'.assembler.cur ∧
        d'.consumeRebase.consumePolicy.assembler.counters = d'.assembler.counters := by
    intro d'
    unfold consumePolicy consumeRebase
    split <;> split_ifs <;> exact ⟨rfl, rfl⟩
  rw [consumeRequests, (hlater _).1, (hlater _).2]
  unfold consumeDiscard
  split_ifs with hdiscard
  · exact .inr ⟨hdiscard, rfl, rfl⟩
  · exact .inl ⟨Bool.eq_false_iff.mpr hdiscard, rfl, rfl⟩

/-- The requests begin no frame. -/
theorem consumeRequests_noPoints {d : DataPath} (h : d.assembler.cur.points = []) :
    d.consumeRequests.assembler.cur.points = [] := by
  obtain ⟨-, hcur, -⟩ | ⟨-, hcur, -⟩ := consumeRequests_cases d
  · rw [hcur]
    exact h
  · exact hcur

/-! ## The invariant -/

/-- The calls made and the counters agree. -/
structure Booked (d : DataPath) (delivered : List Delivery) : Prop where
  frames : d.assembler.counters.frames = (framesOf delivered).length
  points : d.assembler.counters.points =
    pointsIn (framesOf delivered) + d.assembler.cur.points.length
  ahead : pointsIn (framesOf delivered) ≤ d.published.points
  publishedFrames : d.published.frames = d.assembler.counters.frames
  droppedPackets : d.published.droppedPackets = d.assembler.counters.droppedPackets + d.imuDropped
  reordered : d.published.reordered = d.assembler.counters.reordered + d.imuReordered
  frameCntFallback : d.published.frameCntFallback = d.assembler.counters.frameCntFallback
  typeSwitchGaps : d.published.typeSwitchGaps = d.assembler.counters.typeSwitchGaps

variable {d d' : DataPath} {delivered : List Delivery}

/-- The books stay in order when nothing is delivered or published, and of the counters of
the assembler only `points` moves. -/
theorem Booked.keep (h : Booked d delivered) {points : ℕ}
    (hcounters : d'.assembler.counters = { d.assembler.counters with points })
    (hpoints : points = pointsIn (framesOf delivered) + d'.assembler.cur.points.length)
    (hpublished : d'.published = d.published) (hdropped : d'.imuDropped = d.imuDropped)
    (hreordered : d'.imuReordered = d.imuReordered) : Booked d' delivered := by
  constructor <;> simp only [hcounters, hpublished, hdropped, hreordered]
  exacts [h.frames, hpoints, h.ahead, h.publishedFrames, h.droppedPackets, h.reordered,
    h.frameCntFallback, h.typeSwitchGaps]

theorem Booked.consumeRequests (h : Booked d delivered) : Booked d.consumeRequests delivered := by
  have hsame := consumeRequests_sameCounts d
  have hpoints := h.points
  obtain ⟨-, hcur, hcounters⟩ | ⟨-, hcur, hcounters⟩ := consumeRequests_cases d
  · refine h.keep hcounters ?_ hsame.published hsame.imuDropped hsame.imuReordered
    rw [hcur]
    exact hpoints
  · refine h.keep hcounters ?_ hsame.published hsame.imuDropped hsame.imuReordered
    rw [hcur, List.length_nil]
    omega

variable {out : List Delivery}

/-- Once the assembler has let frames out and its counters are published, the calls made with
these frames are accounted for. -/
theorem Booked.publish (h : Booked d delivered)
    (hemits : FrameAssembler.Emits d.assembler (framesOf out) d'.assembler) :
    Booked d'.publishAssemblerCounters (delivered ++ out) := by
  have hpoints : d'.assembler.counters.points =
      pointsIn (framesOf (delivered ++ out)) + d'.assembler.cur.points.length := by
    have hbefore := h.points
    have hbalance := hemits.balance
    rw [framesOf_append, pointsIn_append]
    omega
  constructor
  · show d'.assembler.counters.frames = _
    rw [hemits.frames, h.frames, framesOf_append, List.length_append]
  · exact hpoints
  · show _ ≤ d'.assembler.counters.points
    omega
  · rfl
  · rfl
  · rfl
  · rfl
  · rfl

/-- No counter of `d` but `points` is above that of `d'`. -/
structure Grows (d d' : DataPath) : Prop where
  packets : d.packets ≤ d'.packets
  badPackets : d.badPackets ≤ d'.badPackets
  imuSamples : d.imuSamples ≤ d'.imuSamples
  frames : d.published.frames ≤ d'.published.frames
  droppedPackets : d.published.droppedPackets ≤ d'.published.droppedPackets
  reordered : d.published.reordered ≤ d'.published.reordered
  frameCntFallback : d.published.frameCntFallback ≤ d'.published.frameCntFallback
  typeSwitchGaps : d.published.typeSwitchGaps ≤ d'.published.typeSwitchGaps

theorem Grows.of_sameCounts (h : SameCounts d d') : Grows d d' := by
  constructor <;> simp only [h.packets, h.badPackets, h.imuSamples, h.published, Nat.le_refl]

theorem Grows.trans {d'' : DataPath} (h : Grows d d') (h' : Grows d' d'') : Grows d d'' where
  packets := h.packets.trans h'.packets
  badPackets := h.badPackets.trans h'.badPackets
  imuSamples := h.imuSamples.trans h'.imuSamples
  frames := h.frames.trans h'.frames
  droppedPackets := h.droppedPackets.trans h'.droppedPackets
  reordered := h.reordered.trans h'.reordered
  frameCntFallback := h.frameCntFallback.trans h'.frameCntFallback
  typeSwitchGaps := h.typeSwitchGaps.trans h'.typeSwitchGaps

/-- The receive thread has looked at the samples of a packet or at the time, and is about to
publish: the assembler let frames out, and the counters of the thread itself moved on. -/
structure Turned (d : DataPath) (out : List Delivery) (d' : DataPath) : Prop where
  emits : FrameAssembler.Emits d.assembler (framesOf out) d'.assembler
  packets : d'.packets = d.packets
  badPackets : d'.badPackets = d.badPackets
  imuSamples : d.imuSamples ≤ d'.imuSamples
  imuDropped : d.imuDropped ≤ d'.imuDropped
  imuReordered : d.imuReordered ≤ d'.imuReordered

theorem Booked.publish_grows (h : Booked d delivered) (hturned : Turned d out d') :
    Grows d d'.publishAssemblerCounters where
  packets := hturned.packets.ge
  badPackets := hturned.badPackets.ge
  imuSamples := hturned.imuSamples
  frames := by
    rw [h.publishedFrames]
    exact (Nat.le_add_right _ _).trans hturned.emits.frames.ge
  droppedPackets := by
    rw [h.droppedPackets]
    exact Nat.add_le_add hturned.emits.droppedPackets hturned.imuDropped
  reordered := by
    rw [h.reordered]
    exact Nat.add_le_add hturned.emits.reordered hturned.imuReordered
  frameCntFallback := by
    rw [h.frameCntFallback]
    exact hturned.emits.frameCntFallback
  typeSwitchGaps := by
    rw [h.typeSwitchGaps]
    exact hturned.emits.typeSwitchGaps

/-- **The samples of a packet.**  Either kind of packet ends in a publication. -/
theorem onSamples_turned (d : DataPath) (pkt : DataPacketView) (recvTimeNs : UInt64) :
    ∃ d', (d.onSamples pkt recvTimeNs).2 = d'.publishAssemblerCounters ∧
      Turned d (d.onSamples pkt recvTimeNs).1 d' := by
  unfold onSamples
  split_ifs
  · refine ⟨_, rfl, ?_, rfl, rfl, Nat.le_add_right _ _, Nat.le_add_right _ _, Nat.le_add_right _ _⟩
    have hnone : framesOf (d.onImu pkt recvTimeNs).1 = [] := by
      simp [framesOf, onImu]
    rw [hnone]
    exact .of_eq rfl rfl
  · refine ⟨_, rfl, ?_, rfl, rfl, Nat.le_refl _, Nat.le_refl _, Nat.le_refl _⟩
    have hframes : framesOf (d.onPoints pkt recvTimeNs).1 =
        (d.assembler.push pkt recvTimeNs).1.toList := framesOf_map_frame _
    rw [hframes]
    exact d.assembler.emits_push pkt recvTimeNs

/-- No points have been thrown away since the last publication. -/
def UpToDate (d : DataPath) : Prop :=
  d.published.points = d.assembler.counters.points

/-- **A step of the receive thread** with the calls it makes.  The points that are published
can only decrease when points have been thrown away since the last publication, or are
now. -/
structure Stepped (d : DataPath) (delivered out : List Delivery) (d' : DataPath) : Prop where
  booked : Booked d' (delivered ++ out)
  grows : Grows d d'
  points : d.UpToDate → (d.discardRequested = true → d.assembler.cur.points.length = 0) →
    d'.UpToDate ∧ d.published.points ≤ d'.published.points

/-- A request of another thread, or a tick that finds nothing to do. -/
theorem Booked.quiet (h : Booked d delivered) (hsame : SameCounts d d')
    (hassembler : d'.assembler = d.assembler) : Stepped d delivered [] d' where
  booked := by
    rw [List.append_nil]
    refine h.keep (congrArg FrameAssembler.counters hassembler) ?_ hsame.published
      hsame.imuDropped hsame.imuReordered
    rw [hassembler]
    exact h.points
  grows := .of_sameCounts hsame
  points := fun hup _ => by
    refine ⟨?_, hsame.published ▸ Nat.le_refl _⟩
    rw [UpToDate, hsame.published, hassembler]
    exact hup

/-- A discard without a frame in progress takes nothing off. -/
theorem consumeRequests_points
    (hkept : d.discardRequested = true → d.assembler.cur.points.length = 0) :
    d.consumeRequests.assembler.counters.points = d.assembler.counters.points := by
  obtain ⟨-, -, hcounters⟩ | ⟨hdiscard, -, hcounters⟩ := consumeRequests_cases d
  · rw [hcounters]
  · rw [hcounters, hkept hdiscard]
    rfl

theorem Booked.consumed (h : Booked d delivered) : Stepped d delivered [] d.consumeRequests where
  booked := by
    rw [List.append_nil]
    exact h.consumeRequests
  grows := .of_sameCounts (consumeRequests_sameCounts d)
  points := fun hup hkept => by
    rw [UpToDate, (consumeRequests_sameCounts d).published, consumeRequests_points hkept]
    exact ⟨hup, Nat.le_refl _⟩

/-- The requests are consumed, the thread turns, and the counters are published. -/
theorem Booked.turn (h : Booked d delivered) (hturned : Turned d.consumeRequests out d') :
    Stepped d delivered out d'.publishAssemblerCounters where
  booked := h.consumeRequests.publish hturned.emits
  grows := h.consumed.grows.trans (h.consumeRequests.publish_grows hturned)
  points := fun hup hkept => by
    refine ⟨rfl, ?_⟩
    rw [show d.published.points = _ from hup, ← consumeRequests_points hkept]
    exact hturned.emits.points

/-- A packet was parsed: it is counted before the requests are consumed. -/
def arrived (d : DataPath) (recvTimeNs : UInt64) : DataPath :=
  { d with packets := d.packets + 1, lastPacketTimeNs := recvTimeNs }

theorem Booked.arrived (h : Booked d delivered) (recvTimeNs : UInt64) :
    Booked (d.arrived recvTimeNs) delivered :=
  h.keep rfl h.points rfl rfl rfl

theorem grows_arrived (d : DataPath) (recvTimeNs : UInt64) : Grows d (d.arrived recvTimeNs) := by
  constructor <;> simp [arrived]

/-- **A datagram of the data ports.** -/
theorem Booked.onDatagram (h : Booked d delivered) (data : List UInt8)
    (recvTimeNs : UInt64) :
    Booked (d.onDatagram data recvTimeNs).2 (delivered ++ (d.onDatagram data recvTimeNs).1) ∧
      Grows d (d.onDatagram data recvTimeNs).2 ∧
      (d.UpToDate →
        (∀ pkt, parseDataPacket data d.verifyCrc = .ok pkt → d.discardRequested = true →
          d.assembler.cur.points.length = 0) →
        (d.onDatagram data recvTimeNs).2.UpToDate ∧
          d.published.points ≤ (d.onDatagram data recvTimeNs).2.published.points) := by
  unfold DataPath.onDatagram
  cases hparse : parseDataPacket data d.verifyCrc with
  | error =>
    dsimp only
    rw [List.append_nil]
    refine ⟨?_, ?_, fun hup _ => ⟨hup, Nat.le_refl _⟩⟩
    · exact h.keep rfl h.points rfl rfl rfl
    · constructor <;> simp
  | ok pkt =>
    obtain ⟨d', hstate, hturned⟩ := (d.received recvTimeNs).onSamples_turned pkt recvTimeNs
    have hpacket : Turned (d.received recvTimeNs)
        (.packet pkt recvTimeNs :: ((d.received recvTimeNs).onSamples pkt recvTimeNs).1) d' := by
      refine { hturned with emits := ?_ }
      rw [framesOf_packet]
      exact hturned.emits
    have hstepped := (h.arrived recvTimeNs).turn hpacket
    rw [← hstate] at hstepped
    exact ⟨hstepped.booked, (d.grows_arrived recvTimeNs).trans hstepped.grows,
      fun hup hkept => hstepped.points hup (hkept pkt rfl)⟩

end DataPath

/-! ## Runs -/

namespace Receiver

open DataPath (Booked Grows SameCounts Stepped Turned)

/-- No counter of the data ports moves from `r` to `r'`. -/
structure Quiet (r r' : Receiver) : Prop where
  counts : SameCounts r.toDataPath r'.toDataPath
  assembler : r'.assembler = r.assembler
  push : r.push.badPackets ≤ r'.push.badPackets

theorem Quiet.refl (r : Receiver) : Quiet r r :=
  ⟨⟨rfl, rfl, rfl, rfl, rfl, rfl⟩, rfl, Nat.le_refl _⟩

theorem quiet_declareDisconnected (r : Receiver) : Quiet r r.declareDisconnected := by
  unfold declareDisconnected
  split_ifs
  · exact ⟨⟨rfl, rfl, rfl, rfl, rfl, rfl⟩, rfl, Nat.le_refl _⟩
  · exact .refl r

theorem quiet_connectionTick (r : Receiver) (now : Int64) : Quiet r (r.connectionTick now) := by
  unfold connectionTick
  split_ifs
  · exact quiet_declareDisconnected r
  · exact .refl r

theorem quiet_onPush (r : Receiver) (d : PushDatagram) : Quiet r (r.onPush d) := by
  refine ⟨⟨rfl, rfl, rfl, rfl, rfl, rfl⟩, rfl, ?_⟩
  unfold Receiver.onPush
  dsimp only
  rw [onPush_eq]
  split
  · exact Nat.le_refl _
  · exact Nat.le_succ _

variable {r : Receiver} {delivered : List Delivery}

theorem tick_stepped (h : Booked r.toDataPath delivered) (now : Int64) :
    Stepped (r.connectionTick now).toDataPath delivered (r.tick now).1
      (r.tick now).2.toDataPath := by
  have hquiet := quiet_connectionTick r now
  have hlost : Booked (r.connectionTick now).toDataPath delivered := by
    have hstepped := (h.quiet hquiet.counts hquiet.assembler).booked
    rwa [List.append_nil] at hstepped
  unfold tick
  dsimp only
  split_ifs
  · refine hlost.turn ?_
    refine ⟨?_, rfl, rfl, Nat.le_refl _, Nat.le_refl _, Nat.le_refl _⟩
    rw [show framesOf (closeIdleFrame _).1 = _ from framesOf_map_frame _]
    exact FrameAssembler.emits_flush _
  · exact hlost.consumed

/-- What an action does to the counters. -/
structure Counts (r : Receiver) (a : Action) : Prop where
  grows : Grows r.toDataPath (r.step a).2.toDataPath
  push : r.push.badPackets ≤ (r.step a).2.push.badPackets
  points : r.UpToDate → r.discards a = 0 →
    (r.step a).2.UpToDate ∧ r.published.points ≤ (r.step a).2.published.points

theorem datagram_booked (h : Booked r.toDataPath delivered) (data : List UInt8)
    (recvTimeNs : UInt64) (now : Int64) :
    Booked (r.onDatagram data recvTimeNs now).2.toDataPath
        (delivered ++ (r.onDatagram data recvTimeNs now).1) ∧
      Counts r (.datagram data recvTimeNs now) := by
  obtain ⟨hbooked, hgrows, hpoints⟩ := h.onDatagram data recvTimeNs
  have hstate : (r.onDatagram data recvTimeNs now).2.toDataPath =
        (r.toDataPath.onDatagram data recvTimeNs).2 ∧
      (r.onDatagram data recvTimeNs now).1 = (r.toDataPath.onDatagram data recvTimeNs).1 ∧
      (r.onDatagram data recvTimeNs now).2.push = r.push := by
    unfold Receiver.onDatagram
    dsimp only
    split <;> exact ⟨rfl, rfl, rfl⟩
  obtain ⟨hd, hout, hpush⟩ := hstate
  refine ⟨?_, ?_, ?_, ?_⟩
  · rw [hd, hout]
    exact hbooked
  · show Grows _ (r.onDatagram data recvTimeNs now).2.toDataPath
    rw [hd]
    exact hgrows
  · show _ ≤ (r.onDatagram data recvTimeNs now).2.push.badPackets
    rw [hpush]
  · intro hup hnone
    show (r.onDatagram data recvTimeNs now).2.UpToDate ∧
      _ ≤ (r.onDatagram data recvTimeNs now).2.published.points
    rw [hd]
    refine hpoints hup fun pkt hparse hdiscard => ?_
    simp only [discards, hparse, hdiscard, if_true] at hnone
    exact hnone

theorem tick_booked (h : Booked r.toDataPath delivered) (now : Int64) :
    Booked (r.tick now).2.toDataPath (delivered ++ (r.tick now).1) ∧ Counts r (.tick now) := by
  have hstepped := tick_stepped h now
  have hquiet := quiet_connectionTick r now
  have hkeep : (r.tick now).2.push = (r.connectionTick now).push := by
    unfold tick
    dsimp only
    split_ifs <;> rfl
  refine ⟨hstepped.booked, ?_, ?_, ?_⟩
  · exact (Grows.of_sameCounts hquiet.counts).trans hstepped.grows
  · show _ ≤ (r.tick now).2.push.badPackets
    rw [hkeep]
    exact hquiet.push
  · intro hup hnone
    rw [← hquiet.counts.published]
    refine hstepped.points ?_ fun hdiscard => ?_
    · rw [DataPath.UpToDate, hquiet.counts.published, hquiet.assembler]
      exact hup
    · -- the tick itself may have asked for the discard, when it found the push overdue
      simp only [discards, hdiscard, if_true] at hnone
      rw [hquiet.assembler]
      exact hnone

/-- A request only sets flags for the receive thread. -/
theorem request_booked (h : Booked r.toDataPath delivered) {a : Action} {r' : Receiver}
    (hstep : r.step a = ([], r')) (hquiet : Quiet r r') :
    Booked (r.step a).2.toDataPath (delivered ++ (r.step a).1) ∧ Counts r a := by
  have hstepped := h.quiet hquiet.counts hquiet.assembler
  -- a request throws nothing away, whatever flag it sets: the receive thread does
  have hpoints : r.UpToDate → r'.UpToDate ∧ r.published.points ≤ r'.published.points := by
    intro hup
    rw [DataPath.UpToDate, hquiet.counts.published, hquiet.assembler]
    exact ⟨hup, Nat.le_refl _⟩
  refine ⟨?_, ?_, ?_, ?_⟩ <;> rw [hstep]
  · exact hstepped.booked
  · exact hstepped.grows
  · exact hquiet.push
  · exact fun hup _ => hpoints hup

/-- **Every action keeps the books in order.** -/
theorem step_booked (h : Booked r.toDataPath delivered) (a : Action) :
    Booked (r.step a).2.toDataPath (delivered ++ (r.step a).1) ∧ Counts r a := by
  cases a with
  | datagram data recvTimeNs now => exact datagram_booked h data recvTimeNs now
  | tick now => exact tick_booked h now
  | push d => exact request_booked h rfl (quiet_onPush r d)
  | stopSampling =>
    exact request_booked h rfl ⟨⟨rfl, rfl, rfl, rfl, rfl, rfl⟩, rfl, Nat.le_refl _⟩
  | setFramePolicy =>
    refine request_booked h rfl ?_
    split_ifs
    · exact .refl r
    · exact ⟨⟨rfl, rfl, rfl, rfl, rfl, rfl⟩, rfl, Nat.le_refl _⟩
  | disconnect => exact request_booked h rfl (quiet_declareDisconnected r)
  | reconnect =>
    exact request_booked h rfl ⟨⟨rfl, rfl, rfl, rfl, rfl, rfl⟩, rfl, Nat.le_refl _⟩

/-! ### When no points are in progress -/

/-- Without a point packet no frame begins. -/
theorem step_noPoints (hnone : r.assembler.cur.points = []) {a : Action}
    (ha : r.bringsPoints a = false) : (r.step a).2.assembler.cur.points = [] := by
  cases a with
  | datagram data recvTimeNs now =>
    have hstate : (r.step (.datagram data recvTimeNs now)).2.assembler =
        (r.toDataPath.onDatagram data recvTimeNs).2.assembler := by
      simp only [step, Receiver.onDatagram]
      split <;> rfl
    rw [hstate, DataPath.onDatagram]
    cases hparse : parseDataPacket data r.verifyCrc with
    | error => exact hnone
    | ok pkt =>
      have himu : pkt.header.dataType = .kImu := by
        simpa [bringsPoints, hparse] using ha
      simp only [DataPath.onPacket, DataPath.onSamples, if_pos himu]
      exact DataPath.consumeRequests_noPoints hnone
  | tick now =>
    have hconsumed : (r.connectionTick now).consumeRequests.assembler.cur.points = [] := by
      refine DataPath.consumeRequests_noPoints ?_
      rw [(quiet_connectionTick r now).assembler]
      exact hnone
    simp only [step, tick]
    rw [if_neg fun hidle => hidle.1 hconsumed]
    exact hconsumed
  | push => exact hnone
  | stopSampling => exact hnone
  | setFramePolicy =>
    simp only [step]
    split_ifs <;> exact hnone
  | disconnect =>
    rw [step, (quiet_declareDisconnected r).assembler]
    exact hnone
  | reconnect => exact hnone

/-- A tick that delivers something has closed the frame in progress. -/
theorem tick_closes (r : Receiver) {now : Int64} (h : (r.tick now).1 ≠ []) :
    (r.tick now).2.assembler.cur.points = [] := by
  unfold tick at h ⊢
  dsimp only at h ⊢
  split_ifs at h ⊢ with hidle
  · simp only [closeIdleFrame, FrameAssembler.flush, if_neg hidle.1]
    rfl
  · exact absurd rfl h

end Receiver

/-- No counter but `points` is lower afterwards. -/
structure DeviceStats.AtMost (a b : DeviceStats) : Prop where
  packets : a.packets ≤ b.packets
  frames : a.frames ≤ b.frames
  imuSamples : a.imuSamples ≤ b.imuSamples
  badPackets : a.badPackets ≤ b.badPackets
  droppedPackets : a.droppedPackets ≤ b.droppedPackets
  reordered : a.reordered ≤ b.reordered
  frameCntFallback : a.frameCntFallback ≤ b.frameCntFallback
  typeSwitchGaps : a.typeSwitchGaps ≤ b.typeSwitchGaps

theorem Receiver.Counts.atMost {r : Receiver} {a : Receiver.Action} (h : r.Counts a) :
    r.snapshot.AtMost (r.step a).2.snapshot where
  packets := h.grows.packets
  frames := h.grows.frames
  imuSamples := h.grows.imuSamples
  badPackets := Nat.add_le_add h.grows.badPackets h.push
  droppedPackets := h.grows.droppedPackets
  reordered := h.grows.reordered
  frameCntFallback := h.grows.frameCntFallback
  typeSwitchGaps := h.grows.typeSwitchGaps

namespace Ledger

/-- A device that was just opened. -/
def new (verifyCrc : Bool) (framePolicy : FramePolicy) (timestampPolicy : TimestampPolicy)
    (pushTimeout now : Int64) : Ledger where
  toReceiver := .new verifyCrc framePolicy timestampPolicy pushTimeout now

variable {l : Ledger}

theorem booked_exec (h : l.toDataPath.Booked l.delivered) (actions : List Receiver.Action) :
    (l.exec actions).toDataPath.Booked (l.exec actions).delivered := by
  induction actions generalizing l with
  | nil => exact h
  | cons a actions ih => exact ih (Receiver.step_booked h a).1

theorem exec_append (l : Ledger) (actions actions' : List Receiver.Action) :
    l.exec (actions ++ actions') = (l.exec actions).exec actions' :=
  List.foldl_append

variable {actions : List Receiver.Action}

/-- In a run that throws no points away, `points` stays up to date and never decreases. -/
theorem points_exec (h : l.toDataPath.Booked l.delivered) (hup : l.UpToDate)
    (hkeeps : l.KeepsPoints actions) :
    (l.exec actions).UpToDate ∧ l.published.points ≤ (l.exec actions).published.points := by
  induction actions generalizing l with
  | nil => exact ⟨hup, Nat.le_refl _⟩
  | cons a actions ih =>
    obtain ⟨hdiscards, hrest⟩ := hkeeps
    obtain ⟨hbooked, hcounts⟩ := Receiver.step_booked h a
    obtain ⟨hup', hle⟩ := hcounts.points hup hdiscards
    obtain ⟨hup'', hle'⟩ := ih hbooked hup' hrest
    exact ⟨hup'', hle.trans hle'⟩

theorem KeepsPoints.append {actions' : List Receiver.Action}
    (h : l.KeepsPoints (actions ++ actions')) :
    l.KeepsPoints actions ∧ (l.exec actions).KeepsPoints actions' := by
  induction actions generalizing l with
  | nil => exact ⟨trivial, h⟩
  | cons a actions ih =>
    obtain ⟨hdiscards, hrest⟩ := h
    obtain ⟨hbefore, hafter⟩ := ih hrest
    exact ⟨⟨hdiscards, hbefore⟩, hafter⟩

theorem cur_exec (hnone : l.assembler.cur.points = []) (h : l.BringsNone actions) :
    (l.exec actions).assembler.cur.points = [] := by
  induction actions generalizing l with
  | nil => exact hnone
  | cons a actions ih => exact ih (Receiver.step_noPoints hnone h.1) h.2

/-- No points are in progress when the steps have settled. -/
theorem Settled.cur (h : l.Settled actions) (hnone : l.assembler.cur.points = []) :
    (l.exec actions).assembler.cur.points = [] := by
  obtain ⟨before, after, rfl, hclosed, hafter⟩ := h
  rw [exec_append]
  refine cur_exec ?_ hafter
  obtain rfl | ⟨init, now, rfl, hframe⟩ := hclosed
  · exact hnone
  · rw [exec_append]
    exact (l.exec init).tick_closes hframe

/-- **What the counters say.**  Whatever the receive thread of a device has done and was asked
for, `frames` is the number of frames delivered, `points` is at least the number of points in
them, and no later action lowers a counter but `points`.  If none of its steps has thrown
points away, `points` has never decreased, and it is the number of points delivered and in
progress; once the steps have settled, it is the number of points delivered. -/
theorem stats_account_for_deliveries (verifyCrc : Bool) (framePolicy : FramePolicy)
    (timestampPolicy : TimestampPolicy) (pushTimeout now : Int64)
    (actions : List Receiver.Action) :
    let start := new verifyCrc framePolicy timestampPolicy pushTimeout now
    let l := start.exec actions
    l.snapshot.frames = (framesOf l.delivered).length ∧
    pointsIn (framesOf l.delivered) ≤ l.snapshot.points ∧
    (∀ a, l.snapshot.AtMost (l.step a).snapshot) ∧
    (start.KeepsPoints actions →
      l.snapshot.points = pointsIn (framesOf l.delivered) + l.assembler.cur.points.length ∧
      (∀ before after, actions = before ++ after →
        (start.exec before).snapshot.points ≤ l.snapshot.points) ∧
      (start.Settled actions → l.snapshot.points = pointsIn (framesOf l.delivered))) := by
  intro start l
  have hstart : start.toDataPath.Booked start.delivered := by
    constructor <;> rfl
  have h : l.toDataPath.Booked l.delivered := booked_exec hstart actions
  refine ⟨h.publishedFrames.trans h.frames, h.ahead, fun a => ?_, fun hkeeps => ?_⟩
  · exact (Receiver.step_booked h a).2.atMost
  have hpoints : l.snapshot.points =
      pointsIn (framesOf l.delivered) + l.assembler.cur.points.length :=
    (points_exec hstart rfl hkeeps).1.trans h.points
  refine ⟨hpoints, ?_, fun hsettled => ?_⟩
  · rintro before after rfl
    obtain ⟨hbefore, hafter⟩ := hkeeps.append
    have hle := (points_exec (booked_exec hstart before)
      (points_exec hstart rfl hbefore).1 hafter).2
    rwa [← exec_append] at hle
  · rw [hpoints, hsettled.cur rfl]
    rfl

/-- A device with frames of one second, opened at time zero. -/
def fresh : Ledger :=
  new false { window := 1000000000 } .kLidar 3000000000 0

/-- One point, and a tick two seconds later that closes its frame. -/
def oneFrame : List Receiver.Action :=
  [.datagram (unsyncedPacket 1 14 30) 0 0, .tick 2000000000]

theorem stats_account_for_deliveries_oneFrame :
    (fresh.exec oneFrame).snapshot.points = 1 ∧
      (fresh.exec oneFrame).snapshot.points =
        pointsIn (framesOf (fresh.exec oneFrame).delivered) := by
  have hkeeps : fresh.KeepsPoints oneFrame := ⟨by decide +kernel, by decide +kernel, trivial⟩
  have hsettled : fresh.Settled oneFrame := by
    refine ⟨oneFrame, [], rfl, .inr ⟨oneFrame.take 1, 2000000000, rfl, ?_⟩, trivial⟩
    rw [ne_eq, ← List.length_eq_zero_iff]
    decide +kernel
  have hstats := stats_account_for_deliveries false { window := 1000000000 } .kLidar 3000000000 0
    oneFrame
  exact ⟨by decide +kernel, (hstats.2.2.2 hkeeps).2.2 hsettled⟩

/-- The frame of one point is in progress when sampling is stopped; a packet of the IMU comes
after that. -/
def stopped : List Receiver.Action :=
  [.datagram (unsyncedPacket 1 14 30) 0 0, .stopSampling, .datagram (unsyncedPacket 0 24 40) 0 0]

/-- After the first packet a point is counted that was not delivered, and after the last it is
not counted any more. -/
theorem points_of_a_stopped_frame :
    (fresh.exec (stopped.take 1)).snapshot.points = 1 ∧
      framesOf (fresh.exec (stopped.take 1)).delivered = [] ∧
      (fresh.exec (stopped.take 2)).snapshot.points = 1 ∧
      (fresh.exec stopped).snapshot.points = 0 := by
  refine ⟨by decide +kernel, ?_, by decide +kernel, by decide +kernel⟩
  rw [← List.length_eq_zero_iff]
  decide +kernel

end Ledger

end LivoxMid360
