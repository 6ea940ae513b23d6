import LivoxMid360.FrameAssembler.Conservation

/-!
# Losses at a counter reset

The wire protocol restarts `udp_cnt` at zero with every LiDAR frame.  `DropCounter`
recognises the restart by `udp_cnt == 0` together with a change of `frame_cnt`, and
takes any other backward step for reordering; `push` then discards a reordered
packet whose `frame_cnt` changed, as a straggler of a frame already delivered.

When packet zero of a frame is lost, the next received packet of that frame takes a
backward step without being late.  `received_used_iff` says exactly which received
subsequences of a conformant stream are fully used: those in which every packet
follows the one received before it by a recognised restart or by a forward gap of at
most `0x8000` (`InSequence`).  `reset_loss_discards` is a conformant stream with one
loss for which it fails.
-/

namespace LivoxMid360.FrameAssembler

/-! ## Conformant streams -/

/-- One LiDAR frame: its `frame_cnt` and its packets, numbered from zero. -/
structure ConformantFrame (type : DataType) (frameCnt : UInt8) (packets : List DataPacketView) :
    Prop where
  udpCnt : ∀ (i : ℕ) (h : i < packets.length), packets[i].header.udpCnt.toNat = i
  frameCnt : ∀ p ∈ packets, p.header.frameCnt = frameCnt
  dataType : ∀ p ∈ packets, p.header.dataType = type
  dotNum : ∀ p ∈ packets, p.header.dotNum ≠ 0

/-- A stream of point packets of one data type in which each LiDAR frame has a
`frame_cnt` different from that of the frame before. -/
structure ConformantStream (type : DataType) (frames : List (UInt8 × List DataPacketView)) :
    Prop where
  notImu : type ≠ .kImu
  frame : ∀ f ∈ frames, ConformantFrame type f.1 f.2
  frameCnt : frames.IsChain fun f g => f.1 ≠ g.1

/-- The packets of a stream in the order they are sent. -/
def sent (frames : List (UInt8 × List DataPacketView)) : List DataPacketView :=
  frames.flatMap Prod.snd

/-- The packet `q`, received right after `p`, is a recognised restart or a forward
step. -/
def InSequence (p q : DataPacketView) : Prop :=
  (q.header.udpCnt = 0 ∧ q.header.frameCnt ≠ p.header.frameCnt) ∨
    DropCounter.gap p.header.udpCnt q.header.udpCnt ≤ 0x8000

/-- Every received packet was accepted, its points are in a returned frame or in the
partial one, and nothing was taken for reordering. -/
structure FullyUsed (r : Run) (received : List DataPacketView) : Prop where
  accepted : r.accepted.map Accepted.pkt = received
  points : ((r.returned ++ [r.state.cur]).flatMap Frame.points).map image =
    received.flatMap sampleImages
  reordered : r.state.counters.reordered = 0

/-! ## One packet -/

/-- The assembler has last seen `p`, in sequence. -/
structure Following (p : DataPacketView) (s : FrameAssembler) : Prop where
  drops : s.drops = { have_ := true, last := p.header.udpCnt }
  havePrev : s.havePrev = true
  prevFrameCnt : s.prevFrameCnt = p.header.frameCnt

variable {s : FrameAssembler} {q : DataPacketView}

/-- Whether or not it is accepted, a packet is counted when it was reordered. -/
theorem push_counts_reordered (recvTimeNs : UInt64) (hkept : isIgnored q.header = false) :
    (s.push q recvTimeNs).2.counters.reordered = s.counters.reordered +
      if (s.observe q.header recvTimeNs).1.drop.reordered then 1 else 0 := by
  cases haccepts : s.accepts q recvTimeNs with
  | true =>
    rw [push_accepted haccepts]
    exact (accept_tracking _ _ q).2.1
  | false =>
    obtain hignored | ⟨-, hlate⟩ := not_accepts_cases haccepts
    · rw [hkept] at hignored
      exact absurd hignored (by decide)
    · rw [push_late hkept hlate]
      rfl

/-- An observation that is not reordered is accepted, and followed. -/
theorem push_of_not_reordered {recvTimeNs : UInt64} (hkept : isIgnored q.header = false)
    (h : (s.observe q.header recvTimeNs).1.drop.reordered = false) :
    s.accepts q recvTimeNs = true ∧ Following q (s.push q recvTimeNs).2 := by
  have haccepts : s.accepts q recvTimeNs = true := by
    rw [accepts, isLate, h, hkept]
    rfl
  obtain ⟨hdrops, -, hprev, hframeCnt⟩ :=
    accept_tracking (s.observe q.header recvTimeNs).2 (s.observe q.header recvTimeNs).1 q
  have hseen : (s.observe q.header recvTimeNs).2.drops =
      { have_ := true, last := q.header.udpCnt } := by
    obtain ⟨-, hstate, -⟩ | ⟨hresult, -⟩ := s.drops.observe_cases q.header.udpCnt
      (s.havePrev && q.header.frameCnt != s.prevFrameCnt)
    · exact hstate
    · rw [observe_reordered, hresult] at h
      exact absurd h (by decide)
  rw [push_accepted haccepts]
  exact ⟨haccepts, hdrops.trans hseen, hprev, hframeCnt⟩

/-- A packet is taken for reordered exactly when it is out of sequence. -/
theorem Following.reordered_iff {p : DataPacketView} (h : Following p s) (recvTimeNs : UInt64) :
    (s.observe q.header recvTimeNs).1.drop.reordered = false ↔ InSequence p q := by
  have hchanged : (s.havePrev && q.header.frameCnt != s.prevFrameCnt) = true ↔
      q.header.frameCnt ≠ p.header.frameCnt := by
    rw [h.havePrev, h.prevFrameCnt]
    simp
  rw [observe_reordered, InSequence]
  obtain ⟨hnot, -, hgap⟩ | ⟨hresult, -, -, hgap, hreset⟩ := s.drops.observe_cases q.header.udpCnt
    (s.havePrev && q.header.frameCnt != s.prevFrameCnt)
  · rw [h.drops] at hgap
    refine iff_of_true hnot ?_
    obtain hforward | ⟨hzero, hother⟩ := hgap rfl
    · exact .inr hforward
    · exact .inl ⟨hzero, hchanged.mp hother⟩
  · rw [h.drops] at hgap
    rw [hresult]
    refine iff_of_false (by decide) ?_
    rintro (⟨hzero, hother⟩ | hforward)
    · exact hreset ⟨hzero, hchanged.mpr hother⟩
    · exact absurd hgap (UInt16.not_lt.mpr hforward)

/-! ## A stream of packets -/

/-- Non-IMU packets with samples. -/
def PointPackets (received : List (DataPacketView × UInt64)) : Prop :=
  ∀ p ∈ received, isIgnored p.1.header = false

variable {r : Run} {received : List (DataPacketView × UInt64)}

theorem reordered_le_exec (hpoints : PointPackets received) :
    r.state.counters.reordered ≤ (r.exec (pushAll received)).state.counters.reordered := by
  induction received generalizing r with
  | nil => exact le_rfl
  | cons q received ih =>
    have hfirst : (r.step (.push q.1 q.2)).state.counters.reordered = _ :=
      push_counts_reordered q.2 (hpoints q List.mem_cons_self)
    calc r.state.counters.reordered
        ≤ (r.step (.push q.1 q.2)).state.counters.reordered := by
          rw [hfirst]
          exact Nat.le_add_right ..
      _ ≤ _ := ih fun p mem => hpoints p (List.mem_cons_of_mem q mem)

/-- A packet in sequence after another extends the accepted list. -/
theorem step_accepted {recvTimeNs : UInt64} (h : r.state.accepts q recvTimeNs = true) :
    (r.step (.push q recvTimeNs)).accepted.map Accepted.pkt =
      r.accepted.map Accepted.pkt ++ [q] := by
  simp only [Run.step, if_pos h, List.map_append, List.map_cons, List.map_nil]

/-- From a packet on, nothing is taken for reordered exactly when every packet is in
sequence, and then every packet is accepted. -/
theorem exec_following {p : DataPacketView} (h : Following p r.state)
    (hpoints : PointPackets received) :
    ((r.exec (pushAll received)).state.counters.reordered = r.state.counters.reordered ↔
      (p :: received.map Prod.fst).IsChain InSequence) ∧
    ((p :: received.map Prod.fst).IsChain InSequence →
      (r.exec (pushAll received)).accepted.map Accepted.pkt =
        r.accepted.map Accepted.pkt ++ received.map Prod.fst) := by
  induction received generalizing r p with
  | nil => simp [pushAll, Run.exec]
  | cons q received ih =>
    have hkept := hpoints q List.mem_cons_self
    have hrest : PointPackets received := fun p mem => hpoints p (List.mem_cons_of_mem q mem)
    have hcount : (r.step (.push q.1 q.2)).state.counters.reordered = _ :=
      push_counts_reordered q.2 hkept
    have hexec : r.exec (pushAll (q :: received)) =
        (r.step (.push q.1 q.2)).exec (pushAll received) := rfl
    rw [hexec, List.map_cons, List.isChain_cons_cons]
    -- the count never goes down again, so the first packet out of sequence decides
    by_cases hseq : InSequence p q.1
    · have hnot := (h.reordered_iff q.2).mpr hseq
      obtain ⟨haccepts, hnext⟩ := push_of_not_reordered hkept hnot
      obtain ⟨hiff, hall⟩ := ih (r := r.step (.push q.1 q.2)) hnext hrest
      have hsame : (r.step (.push q.1 q.2)).state.counters.reordered =
          r.state.counters.reordered := by
        rw [hcount, hnot]
        rfl
      rw [hsame] at hiff
      refine ⟨hiff.trans (and_iff_right hseq).symm, fun hchain => ?_⟩
      rw [hall hchain.2, step_accepted haccepts, List.append_assoc]
      rfl
    · have hreordered : (r.state.observe q.1.header q.2).1.drop.reordered = true := by
        rw [← Bool.not_eq_false]
        exact fun hfalse => hseq ((h.reordered_iff q.2).mp hfalse)
      have hmono := reordered_le_exec (r := r.step (.push q.1 q.2)) hrest
      rw [hcount, hreordered] at hmono
      refine ⟨iff_of_false ?_ fun hchain => hseq hchain.1, fun hchain => absurd hchain.1 hseq⟩
      simp only [if_true] at hmono
      omega

/-- A fresh assembler never takes its first packet for reordered. -/
theorem new_reordered (policy : FramePolicy) (timestamps : TimestampPolicy)
    (h : DataPacketHeader) (recvTimeNs : UInt64) :
    ((new policy timestamps).observe h recvTimeNs).1.drop.reordered = false :=
  observe_reordered ..

/-- From a fresh assembler on, nothing is taken for reordered exactly when every
packet is in sequence, and then every packet is accepted. -/
theorem run_reordered_iff (policy : FramePolicy) (timestamps : TimestampPolicy)
    (hpoints : PointPackets received) :
    ((run policy timestamps (pushAll received)).state.counters.reordered = 0 ↔
      (received.map Prod.fst).IsChain InSequence) ∧
    ((received.map Prod.fst).IsChain InSequence →
      (run policy timestamps (pushAll received)).accepted.map Accepted.pkt =
        received.map Prod.fst) := by
  cases received with
  | nil => simp [pushAll, run, Run.exec, new]
  | cons q =>
    have hkept := hpoints q List.mem_cons_self
    have hnot := new_reordered policy timestamps q.1.header q.2
    obtain ⟨haccepts, hnext⟩ := push_of_not_reordered hkept hnot
    have hfirst : (Run.step { state := new policy timestamps }
        (.push q.1 q.2)).state.counters.reordered = 0 := by
      refine (push_counts_reordered q.2 hkept).trans ?_
      rw [hnot]
      rfl
    have hrest := exec_following (r := Run.step { state := new policy timestamps }
      (.push q.1 q.2)) hnext (fun p mem => hpoints p (List.mem_cons_of_mem q mem))
    rw [hfirst, step_accepted haccepts] at hrest
    exact hrest

/-- The packets received from a conformant stream are point packets. -/
theorem ConformantStream.pointPackets {type : DataType}
    {frames : List (UInt8 × List DataPacketView)} (h : ConformantStream type frames)
    (hsub : (received.map Prod.fst).Sublist (sent frames)) : PointPackets received := by
  intro p mem
  obtain ⟨f, hf, hp⟩ := List.mem_flatMap.mp (hsub.subset (List.mem_map_of_mem mem))
  have htype := (h.frame f hf).dataType p.1 hp
  have hdots := (h.frame f hf).dotNum p.1 hp
  have himu := h.notImu
  simp [isIgnored, htype, hdots, himu]

/-- **Which lossy in-order streams are fully used.**  For every in-order subsequence
received from a conformant stream, a fresh assembler uses every packet and counts no
reordering exactly when every received packet is in sequence after the one received
before it. -/
theorem received_used_iff (policy : FramePolicy) (timestamps : TimestampPolicy) {type : DataType}
    {frames : List (UInt8 × List DataPacketView)} (hstream : ConformantStream type frames)
    {received : List (DataPacketView × UInt64)}
    (hsub : (received.map Prod.fst).Sublist (sent frames)) :
    FullyUsed (run policy timestamps (pushAll received)) (received.map Prod.fst) ↔
      (received.map Prod.fst).IsChain InSequence := by
  obtain ⟨hiff, hall⟩ := run_reordered_iff policy timestamps (hstream.pointPackets hsub)
  constructor
  · intro used
    exact hiff.mp used.reordered
  · intro hchain
    have haccepted := hall hchain
    refine ⟨haccepted, ?_, hiff.mpr hchain⟩
    have hops : Op.discard ∉ pushAll received := by
      simp [pushAll]
    rw [points_eq_images policy timestamps hops, ← haccepted, List.flatMap_map]
    rfl

/-! ## Packet zero lost -/

/-- A packet of one point. -/
def framePacket (frameCnt : UInt8) (udpCnt : UInt16) : DataPacketView where
  header := { dotNum := 1, frameCnt, udpCnt }
  data := List.replicate 14 0

/-- A frame of three packets and a frame of two. -/
def twoFrames : List (UInt8 × List DataPacketView) :=
  [(0, [framePacket 0 0, framePacket 0 1, framePacket 0 2]),
    (1, [framePacket 1 0, framePacket 1 1])]

theorem conformant_twoFrames : ConformantStream .kCartesian32 twoFrames where
  notImu := by decide
  frame := by
    intro f mem
    simp only [twoFrames, List.mem_cons, List.not_mem_nil, or_false] at mem
    rcases mem with rfl | rfl
    all_goals
      constructor
      · decide
      all_goals simp [framePacket]
  frameCnt := by decide

/-- What is received of the two frames when packet zero of the second is lost. -/
def receivedWithoutReset : List (DataPacketView × UInt64) :=
  [(framePacket 0 0, 0), (framePacket 0 1, 0), (framePacket 0 2, 0), (framePacket 1 1, 0)]

/-- The last packet is in order and not late, yet it is counted as reordered and its
point is in no frame. -/
theorem reset_loss_discards :
    ConformantStream .kCartesian32 twoFrames ∧
      (receivedWithoutReset.map Prod.fst).Sublist (sent twoFrames) ∧
      (run {} .kLidar (pushAll receivedWithoutReset)).state.counters.reordered = 1 ∧
      (run {} .kLidar (pushAll receivedWithoutReset)).accepted.length = 3 ∧
      (run {} .kLidar (pushAll receivedWithoutReset)).state.cur.points.length = 3 ∧
      (run {} .kLidar (pushAll receivedWithoutReset)).returned.length = 0 := by
  refine ⟨conformant_twoFrames, ?_, ?_⟩
  · exact .cons_cons _ (.cons_cons _ (.cons_cons _ (.cons _ (.refl _))))
  · decide +kernel

/-- The loss of packet one of the first frame does no harm. -/
theorem received_used_forward_gap :
    ConformantStream .kCartesian32 twoFrames ∧ FullyUsed (run {} .kLidar (pushAll
          [(framePacket 0 0, 0), (framePacket 0 2, 0), (framePacket 1 0, 0)]))
        [framePacket 0 0, framePacket 0 2, framePacket 1 0] := by
  have hsub : ([(framePacket 0 0, (0 : UInt64)), (framePacket 0 2, 0),
      (framePacket 1 0, 0)].map Prod.fst).Sublist (sent twoFrames) :=
    .cons_cons _ (.cons _ (.cons_cons _ (.cons_cons _ (.cons _ .slnil))))
  refine ⟨conformant_twoFrames, (received_used_iff {} .kLidar conformant_twoFrames hsub).mpr ?_⟩
  exact .cons_cons (.inr (by decide)) (.cons_cons (.inl (by decide)) (.singleton _))

end LivoxMid360.FrameAssembler
