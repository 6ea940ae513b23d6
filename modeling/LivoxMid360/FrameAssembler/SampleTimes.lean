import LivoxMid360.FrameAssembler.Conservation

/-!
# Sample times do not cut frames

The times of the samples within a packet come from its `time_interval`.  They end up
in the offsets of the points and in the end time of the frame, and in one decision: a
packet whose last sample may lie more than 32 bits of nanoseconds behind the base time
closes the frame.  Where that decision does not fall, two packets that differ in their
`time_interval` only are the same for the assembler.

`Frame.untimed` forgets the offsets and the end time, `Alike` relates assemblers that
differ in those of the partial frame only, and `SameSamples` relates packets with the
same samples.  `push_alike` is the step, and `run_alike` follows two runs, of which the
second may leave out packets that the assembler ignores.
-/

namespace LivoxMid360

/-! ## Without sample times -/

/-- A frame without the times of its samples. -/
def Frame.untimed (f : Frame) : Frame :=
  { f with endTimeNs := 0, points := f.points.map FrameAssembler.image }

/-- Frames with the same content, but for the times of their samples. -/
theorem Frame.untimed_eq_iff {f g : Frame} :
    f.untimed = g.untimed ↔ f.index = g.index ∧ f.baseTimeNs = g.baseTimeNs ∧
      f.points.map FrameAssembler.image = g.points.map FrameAssembler.image ∧
      f.packets = g.packets ∧ f.droppedPackets = g.droppedPackets ∧ f.frameCnt = g.frameCnt ∧
      f.sourceType = g.sourceType ∧ f.timeType = g.timeType := by
  simp only [untimed, Frame.mk.injEq, true_and]

namespace FrameAssembler

/-- Assemblers that differ in the sample times of the partial frame only. -/
structure Alike (s s' : FrameAssembler) : Prop where
  rest : s' = { s with cur := s'.cur }
  cur : s'.cur.untimed = s.cur.untimed

/-- Packets with the same samples, which may come in a shorter time. -/
structure SameSamples (pkt pkt' : DataPacketView) : Prop where
  timeInterval : pkt'.header.timeInterval ≤ pkt.header.timeInterval
  dotNum : pkt'.header.dotNum = pkt.header.dotNum
  udpCnt : pkt'.header.udpCnt = pkt.header.udpCnt
  frameCnt : pkt'.header.frameCnt = pkt.header.frameCnt
  dataType : pkt'.header.dataType = pkt.header.dataType
  timeType : pkt'.header.timeType = pkt.header.timeType
  timestampNs : pkt'.header.timestampNs = pkt.header.timestampNs
  samples : convertPoint pkt' = convertPoint pkt

/-- The samples of a packet at `t0` stay within 32 bits of nanoseconds of the base time
of the partial frame, unless it begins before it. -/
def WithinSpan (s : FrameAssembler) (h : DataPacketHeader) (t0 : UInt64) : Prop :=
  s.cur.points ≠ [] → s.cur.baseTimeNs ≤ t0 →
    t0.toNat - s.cur.baseTimeNs.toNat + h.timeInterval.toNat * 100 ≤ 0xFFFFFFFF

/-- Within the span, the last check of `push` does not close the frame. -/
theorem WithinSpan.not_far {s : FrameAssembler} {h h' : DataPacketHeader} {t0 : UInt64}
    (hspan : WithinSpan s h t0) (hpoints : s.cur.points ≠ [])
    (hinterval : h'.timeInterval ≤ h.timeInterval) :
    ¬(t0 ≥ s.cur.baseTimeNs ∧
      t0 - s.cur.baseTimeNs + h'.timeInterval.toUInt64 * 100 > 0xFFFFFFFF) := by
  rintro ⟨hbase, hfar⟩
  have hle := hspan hpoints hbase
  have hlt := t0.toNat_lt
  rw [ge_iff_le, UInt64.le_iff_toNat_le] at hbase
  rw [UInt16.le_iff_toNat_le] at hinterval
  rw [gt_iff_lt, UInt64.lt_iff_toNat_lt, UInt64.toNat_add, UInt64.toNat_mul,
    UInt64.toNat_sub_of_le _ _ (UInt64.le_iff_toNat_le.mpr hbase), UInt16.toNat_toUInt64] at hfar
  have hsmall := h.timeInterval.toNat_lt
  have hword : (0xFFFFFFFF : UInt64).toNat = 0xFFFFFFFF := rfl
  have hhundred : (100 : UInt64).toNat = 100 := rfl
  rw [hword, hhundred, Nat.mod_eq_of_lt (b := 2 ^ 64) (by omega),
    Nat.mod_eq_of_lt (by omega)] at hfar
  omega

namespace Alike

variable {s s' : FrameAssembler} {pkt pkt' : DataPacketView}

theorem exists_cur (h : Alike s s') :
    ∃ cur, s' = { s with cur } ∧ cur.untimed = s.cur.untimed :=
  ⟨s'.cur, h.rest, h.cur⟩

theorem of_cur {cur : Frame} (h : cur.untimed = s.cur.untimed) : Alike s { s with cur } :=
  ⟨rfl, h⟩

variable (h : Alike s s')

include h

theorem points_nil_iff : s'.cur.points = [] ↔ s.cur.points = [] := by
  have hpoints := (Frame.untimed_eq_iff.mp h.cur).2.2.1
  rw [← List.map_eq_nil_iff (f := image), hpoints, List.map_eq_nil_iff]

/-- What is seen of a packet does not depend on sample times. -/
theorem observe (hpolicy : s.time.policy = .kLidar) (same : SameSamples pkt pkt') (t t' : UInt64) :
    (s'.observe pkt'.header t').1 = (s.observe pkt.header t).1 ∧
      Alike (s.observe pkt.header t).2 (s'.observe pkt'.header t').2 ∧
      (s.observe pkt.header t).1.t0 = pkt.header.timestampNs ∧
      (s.observe pkt.header t).2.time.policy = .kLidar := by
  have hmap : ∀ hd t, s.time.map hd t = (hd.timestampNs, s.time) := by
    intro hd t
    rw [TimeMapper.map, hpolicy]
  obtain ⟨hrest, hcur⟩ := h
  have hobserve : s'.observe pkt'.header t' = ((s.observe pkt.header t).1,
      { (s.observe pkt.header t).2 with cur := s'.cur }) := by
    rw [hrest]
    unfold FrameAssembler.observe
    simp only [hmap, same.udpCnt, same.frameCnt, same.dataType, same.timestampNs]
  have htime : (s.observe pkt.header t).1.t0 = pkt.header.timestampNs ∧
      (s.observe pkt.header t).2.time = s.time := by
    unfold FrameAssembler.observe
    rw [hmap]
    exact ⟨rfl, rfl⟩
  rw [hobserve]
  exact ⟨rfl, ⟨rfl, hcur⟩, htime.1, htime.2 ▸ hpolicy⟩

theorem isLate (o : Observation) : s'.isLate o = s.isLate o := by
  rw [h.rest]
  rfl

theorem trackFallback (o : Observation) : Alike (s.trackFallback o) (s'.trackFallback o) := by
  obtain ⟨hrest, hcur⟩ := h
  have hstep : s'.trackFallback o = { s.trackFallback o with cur := s'.cur } := by
    rw [hrest]
    unfold FrameAssembler.trackFallback FrameAssembler.window
    dsimp only
    split_ifs <;> rfl
  refine ⟨?_, ?_⟩
  · rw [hstep]
  · rw [hstep, (s.trackFallback_keeps o).1]
    exact hcur

theorem closeDecision (same : SameSamples pkt pkt') {o : Observation}
    (hspan : WithinSpan s pkt.header o.t0) (hpoints : s.cur.points ≠ []) :
    s'.closeDecision pkt'.header o = s.closeDecision pkt.header o := by
  obtain ⟨-, hbase, -, -, -, -, hsource, htype⟩ := Frame.untimed_eq_iff.mp h.cur
  have hwindow : s'.window = s.window ∧ s'.timeWindowActive = s.timeWindowActive ∧
      s'.windowStart = s.windowStart := by
    rw [h.rest]
    exact ⟨rfl, rfl, rfl⟩
  have hnear := hspan.not_far hpoints (UInt16.le_refl pkt.header.timeInterval)
  have hnear' := hspan.not_far hpoints same.timeInterval
  unfold FrameAssembler.closeDecision
  simp only [hbase, hsource, htype, hwindow, same.dataType, same.timeType, if_neg hnear,
    if_neg hnear']

theorem takeFrame :
    s'.takeFrame.1.untimed = s.takeFrame.1.untimed ∧ s'.takeFrame.2 = s.takeFrame.2 := by
  obtain ⟨cur, rfl, hcur⟩ := h.exists_cur
  obtain ⟨-, hrest⟩ := Frame.untimed_eq_iff.mp hcur
  exact ⟨Frame.untimed_eq_iff.mpr ⟨rfl, hrest⟩, rfl⟩

theorem flush :
    s'.flush.1.map Frame.untimed = s.flush.1.map Frame.untimed ∧
      s'.flush.2.counters = s.flush.2.counters := by
  unfold FrameAssembler.flush
  by_cases hpoints : s.cur.points = []
  · rw [if_pos hpoints, if_pos (h.points_nil_iff.mpr hpoints), h.rest]
    exact ⟨rfl, rfl⟩
  · rw [if_neg hpoints, if_neg (mt h.points_nil_iff.mp hpoints)]
    exact ⟨congrArg some h.takeFrame.1, congrArg FrameAssembler.counters h.takeFrame.2⟩

/-- Both take their partial frames, or neither. -/
theorem closeFrame (same : SameSamples pkt pkt') {o : Observation}
    (hspan : WithinSpan s pkt.header o.t0) :
    (s'.closeFrame pkt'.header o).1.map Frame.untimed =
        (s.closeFrame pkt.header o).1.map Frame.untimed ∧
      (s'.closeFrame pkt'.header o).2.1 = (s.closeFrame pkt.header o).2.1 ∧
      Alike (s.closeFrame pkt.header o).2.2 (s'.closeFrame pkt'.header o).2.2 := by
  unfold FrameAssembler.closeFrame
  by_cases hpoints : s.cur.points = []
  · rw [if_pos hpoints, if_pos (h.points_nil_iff.mpr hpoints)]
    exact ⟨rfl, rfl, h⟩
  · rw [if_neg hpoints, if_neg (mt h.points_nil_iff.mp hpoints), h.closeDecision same hspan hpoints]
    dsimp only
    split_ifs
    · refine ⟨congrArg some h.takeFrame.1, rfl, ?_⟩
      rw [h.takeFrame.2]
      exact ⟨rfl, rfl⟩
    · exact ⟨rfl, rfl, h⟩

theorem openFrame (same : SameSamples pkt pkt') (t0 : UInt64) (onGrid : Bool) :
    Alike (s.openFrame pkt.header t0 onGrid) (s'.openFrame pkt'.header t0 onGrid) := by
  have hempty := h.points_nil_iff
  obtain ⟨cur, rfl, hcur⟩ := h.exists_cur
  unfold FrameAssembler.openFrame
  by_cases hpoints : s.cur.points = []
  · rw [if_pos hpoints, if_pos (hempty.mpr hpoints)]
    obtain ⟨hindex, -, hsamples, hpackets, hdropped, -⟩ := Frame.untimed_eq_iff.mp hcur
    refine of_cur (Frame.untimed_eq_iff.mpr ⟨hindex, rfl, hsamples, hpackets, hdropped, ?_⟩)
    exact ⟨same.frameCnt, same.dataType, same.timeType⟩
  · rw [if_neg hpoints, if_neg (mt hempty.mp hpoints)]
    exact h

theorem book (same : SameSamples pkt pkt') (o : Observation) :
    Alike (s.book pkt o) (s'.book pkt' o) := by
  obtain ⟨cur, rfl, hcur⟩ := h.exists_cur
  obtain ⟨hindex, hbase, hsamples, hpackets, hdropped, htypes⟩ := Frame.untimed_eq_iff.mp hcur
  unfold FrameAssembler.book
  simp only [same.dotNum, same.frameCnt, same.dataType]
  refine of_cur (Frame.untimed_eq_iff.mpr ⟨hindex, hbase, ?_, ?_, ?_, htypes⟩)
  · simp only [append, List.map_append, List.map_map, hsamples, same.dotNum]
    refine congrArg _ (List.map_congr_left fun i _ => ?_)
    simp only [Function.comp_apply, image_framePoint, same.samples]
  · exact congrArg (· + 1) hpackets
  · exact congrArg (· + o.drop.dropped) hdropped

theorem accept (same : SameSamples pkt pkt') {o : Observation}
    (hspan : WithinSpan s pkt.header o.t0) :
    (s'.accept pkt' o).1.map Frame.untimed = (s.accept pkt o).1.map Frame.untimed ∧
      Alike (s.accept pkt o).2 (s'.accept pkt' o).2 := by
  have hspan' : WithinSpan (s.trackFallback o) pkt.header o.t0 := by
    rw [WithinSpan, (s.trackFallback_keeps o).1]
    exact hspan
  obtain ⟨hframe, hgrid, hclosed⟩ := (h.trackFallback o).closeFrame same hspan'
  unfold FrameAssembler.accept
  dsimp only
  rw [hgrid]
  exact ⟨hframe, (hclosed.openFrame same o.t0 _).book same o⟩

/-- **One packet.**  Assemblers that differ in sample times only, and get the same
samples, return the same frames but for the sample times, and differ in those only
afterwards. -/
theorem push (hpolicy : s.time.policy = .kLidar) (same : SameSamples pkt pkt') (t t' : UInt64)
    (hspan : s.accepts pkt t = true → WithinSpan s pkt.header pkt.header.timestampNs) :
    (s'.push pkt' t').1.map Frame.untimed = (s.push pkt t).1.map Frame.untimed ∧
      Alike (s.push pkt t).2 (s'.push pkt' t').2 := by
  have hignored : isIgnored pkt'.header = isIgnored pkt.header := by
    rw [isIgnored, isIgnored, same.dataType, same.dotNum]
  obtain ⟨hseen, hstate, htime, -⟩ := h.observe hpolicy same t t'
  have hlate := hstate.isLate (s.observe pkt.header t).1
  cases haccepts : s.accepts pkt t with
  | false =>
    rcases not_accepts_cases haccepts with hskip | ⟨hskip, hlate'⟩
    · rw [push_ignored hskip, push_ignored (hignored.trans hskip)]
      exact ⟨rfl, h⟩
    · rw [push_late hskip hlate', push_late (hignored.trans hskip)
        (by rw [hseen, hlate, hlate'])]
      exact ⟨rfl, hstate⟩
  | true =>
    have haccepts' : s'.accepts pkt' t' = true := by
      rw [accepts, hignored, hseen, hlate]
      exact haccepts
    rw [push_accepted haccepts, push_accepted haccepts', hseen]
    refine hstate.accept same ?_
    rw [htime]
    exact hspan haccepts

end Alike

/-- With the LiDAR's own clock, `push` leaves the time mapping alone. -/
theorem push_time {s : FrameAssembler} (h : s.time.policy = .kLidar) (pkt : DataPacketView)
    (t : UInt64) : (s.push pkt t).2.time = s.time := by
  cases hskip : isIgnored pkt.header with
  | true => rw [push_ignored hskip]
  | false =>
    rw [push_clock hskip]
    simp only [TimeMapper.map, h]

/-! ## Runs -/

/-- The second list has the samples of the first, and may leave out packets that the
assembler ignores. -/
inductive Thinned :
    List (DataPacketView × UInt64) → List (DataPacketView × UInt64) → Prop where
  | nil : Thinned [] []
  | skip {p : DataPacketView × UInt64} {received kept : List (DataPacketView × UInt64)}
      (ignored : isIgnored p.1.header = true) (rest : Thinned received kept) :
      Thinned (p :: received) kept
  | keep {p q : DataPacketView × UInt64} {received kept : List (DataPacketView × UInt64)}
      (same : SameSamples p.1 q.1) (rest : Thinned received kept) :
      Thinned (p :: received) (q :: kept)

/-- Every packet that is accepted stays within the span of the partial frame it finds. -/
def SpanAlong (r : Run) (received : List (DataPacketView × UInt64)) : Prop :=
  ∀ before p after, received = before ++ p :: after →
    (r.exec (pushAll before)).state.accepts p.1 p.2 = true →
      WithinSpan (r.exec (pushAll before)).state p.1.header p.1.header.timestampNs

theorem SpanAlong.head {r : Run} {p : DataPacketView × UInt64}
    {received : List (DataPacketView × UInt64)} (h : SpanAlong r (p :: received)) :
    r.state.accepts p.1 p.2 = true → WithinSpan r.state p.1.header p.1.header.timestampNs :=
  h [] p received rfl

theorem SpanAlong.tail {r : Run} {p : DataPacketView × UInt64}
    {received : List (DataPacketView × UInt64)} (h : SpanAlong r (p :: received)) :
    SpanAlong (r.step (.push p.1 p.2)) received := by
  intro before q after hsplit
  exact h (p :: before) q after (congrArg (p :: ·) hsplit)

/-- **Two runs** over the same samples return the same frames but for the sample times,
and count the same. -/
theorem exec_alike {received kept : List (DataPacketView × UInt64)}
    (hthin : Thinned received kept) {r r' : Run} (h : Alike r.state r'.state)
    (hreturned : r'.returned.map Frame.untimed = r.returned.map Frame.untimed)
    (hpolicy : r.state.time.policy = .kLidar) (hspan : SpanAlong r received) :
    (r'.exec (pushAll kept)).returned.map Frame.untimed =
        (r.exec (pushAll received)).returned.map Frame.untimed ∧
      Alike (r.exec (pushAll received)).state (r'.exec (pushAll kept)).state := by
  induction hthin generalizing r r' with
  | nil => exact ⟨hreturned, h⟩
  | @skip p received kept ignored rest ih =>
    have hpush : r.state.push p.1 p.2 = (none, r.state) := push_ignored ignored
    refine ih (r := r.step (.push p.1 p.2)) ?_ ?_ ?_ hspan.tail
    · show Alike (r.state.push p.1 p.2).2 r'.state
      rw [hpush]
      exact h
    · rw [returned_push, hpush, Option.toList_none, List.append_nil, hreturned]
    · show (r.state.push p.1 p.2).2.time.policy = .kLidar
      rw [hpush]
      exact hpolicy
  | @keep p q received kept same rest ih =>
    obtain ⟨hframes, halike⟩ := h.push hpolicy same p.2 q.2 hspan.head
    refine @ih (r.step (.push p.1 p.2)) (r'.step (.push q.1 q.2)) halike ?_ ?_ hspan.tail
    · rw [returned_push, returned_push, List.map_append, List.map_append, hreturned,
        ← Option.toList_map, ← Option.toList_map, hframes]
    · exact (congrArg TimeMapper.policy (push_time hpolicy p.1 p.2)).trans hpolicy

/-- **Whole runs**, with a flush at the end. -/
theorem run_alike (policy : FramePolicy) {received kept : List (DataPacketView × UInt64)}
    (hthin : Thinned received kept)
    (hspan : SpanAlong { state := new policy .kLidar } received) :
    (run policy .kLidar (pushAll kept ++ [.flush])).returned.map Frame.untimed =
        (run policy .kLidar (pushAll received ++ [.flush])).returned.map Frame.untimed ∧
      (run policy .kLidar (pushAll kept ++ [.flush])).state.counters =
        (run policy .kLidar (pushAll received ++ [.flush])).state.counters := by
  let fresh : Run := { state := new policy .kLidar }
  obtain ⟨hreturned, halike⟩ := @exec_alike _ _ hthin fresh fresh ⟨rfl, rfl⟩ rfl rfl hspan
  obtain ⟨hframe, hstate⟩ := halike.flush
  rw [run_concat, run_concat, returned_flush, returned_flush, List.map_append, List.map_append,
    run, run, hreturned, ← Option.toList_map, ← Option.toList_map, hframe]
  exact ⟨rfl, hstate⟩

end FrameAssembler

end LivoxMid360
