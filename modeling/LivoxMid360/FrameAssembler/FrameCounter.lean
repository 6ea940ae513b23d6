import LivoxMid360.FrameAssembler.ResetLoss
import LivoxMid360.FrameAssembler.TimeWindow

/-!
# The frame counter cuts at its changes

In frame-counter mode five conditions can close a frame and one can switch to the time
window.  For a stream of packets that is in order, whatever was lost of it, only the
intended one ever fires: the frames are the maximal runs of packets with one `frame_cnt`
(`frameCounter_runs`).

The packets carry the low sixteen bits of their true numbers.  Between neighbours the
numbers grow by at most `0x8001`, so no packet is taken for reordered, and without a
restart of `udp_cnt` the dropped packets are exactly the missing numbers.

`Counting` is the invariant.  It looks ahead: what is said about the runs of the whole
stream is kept for the runs of the current group together with the packets to come.
-/

namespace LivoxMid360.FrameAssembler

open Runs

/-- The frame counter of a packet with its mapped time. -/
def frameCntOf (p : DataPacketView × UInt64) : UInt8 :=
  p.1.header.frameCnt

/-- The packet `q` follows `p` in order, perhaps after a loss. -/
structure InOrder (w : ℕ) (p q : DataPacketView × UInt64) : Prop where
  points : isIgnored q.1.header = false
  dataType : q.1.header.dataType = p.1.header.dataType
  timeType : q.1.header.timeType = p.1.header.timeType
  gap : DropCounter.gap p.1.header.udpCnt q.1.header.udpCnt ≤ 0x8000
  ordered : p.2.toNat ≤ q.2.toNat
  range : q.2.toNat + 2 * w < 2 ^ 64

/-- A run of packets whose samples all fit into the offsets of one frame. -/
def FitsFrame (run : List (DataPacketView × UInt64)) : Prop :=
  ∀ p ∈ run.head?, ∀ q ∈ run,
    q.2.toNat - p.2.toNat + q.1.header.timeInterval.toNat * 100 ≤ 2 ^ 32 - 1

/-- The packets so far were grouped by `frame_cnt` and nothing but its changes counted; the
packets of `rest` are to come. -/
structure Counting (w : ℕ) (first : UInt64) (rest : List (DataPacketView × UInt64)) (last : Taken)
    (g : Grouping) : Prop where
  grouped : Grouped g
  runs : GroupedBy (fun a => a.pkt.header.frameCnt) last g
  window : g.state.window.toNat = w
  mode : g.state.policy.mode = .kFrameCounter
  fallback : g.state.fallback = false
  firstTime : g.state.firstTime = some first
  following : Following last.pkt g.state
  prevDataType : g.state.prevDataType = last.pkt.header.dataType
  reordered : g.state.counters.reordered = 0
  times : first.toNat ≤ last.t0.toNat ∧ ∀ a ∈ g.current.head?, a.t0.toNat ≤ last.t0.toNat
  chain : (last.stamp :: rest).IsChain (InOrder w)
  fits : ∀ run ∈ Runs.runs frameCntOf (g.current.map Taken.stamp ++ rest), FitsFrame run
  early : g.state.frameCntChangedEver = true ∨
    ∀ run ∈ (Runs.runs frameCntOf (g.current.map Taken.stamp ++ rest)).head?, ∀ q ∈ run,
      q.2.toNat < first.toNat + 2 * w

/-- What the bookkeeping of the fallback does while `frame_cnt` changes in time. -/
theorem trackFallback_of_counting {s : FrameAssembler} {o : Observation} {first : UInt64}
    (hmode : s.policy.mode = .kFrameCounter) (hfallback : s.fallback = false)
    (hfirst : s.firstTime = some first) (hle : first ≤ o.t0)
    (hearly : o.frameChanged = false → s.frameCntChangedEver = false →
      o.t0 < first + 2 * s.window) :
    s.trackFallback o =
      { s with
        firstTime := some first
        frameCntChangedEver := s.frameCntChangedEver || o.frameChanged } := by
  unfold trackFallback
  rw [hfirst]
  dsimp only
  rw [if_neg (UInt64.not_lt.mpr hle), if_pos ⟨hmode, hfallback⟩]
  cases hchanged : o.frameChanged with
  | true =>
    rw [if_pos rfl, Bool.or_true]
  | false =>
    rw [if_neg Bool.false_ne_true, Bool.or_false, if_neg]
    rintro ⟨hever, hpast⟩
    exact absurd hpast (UInt64.not_le.mpr (hearly hchanged hever))

section Runs

variable {group : List Taken} {q : DataPacketView × UInt64}

/-- A packet with the `frame_cnt` of the group is in the first run to come, which starts
where the group does. -/
theorem exists_first_run (rest : List (DataPacketView × UInt64)) (hne : group ≠ [])
    (hgroup : ∀ a ∈ group, a.pkt.header.frameCnt = frameCntOf q) :
    ∃ run, (Runs.runs frameCntOf (group.map Taken.stamp ++ q :: rest)).head? = some run ∧
      run.head? = (group.map Taken.stamp).head? ∧ q ∈ run := by
  have hconst : ∀ p ∈ group.map Taken.stamp ++ [q], frameCntOf p = frameCntOf q := by
    intro p mem
    obtain mem | mem := List.mem_append.mp mem
    · obtain ⟨a, ha, rfl⟩ := List.mem_map.mp mem
      exact hgroup a ha
    · rw [List.mem_singleton.mp mem]
  obtain ⟨g, gs, hruns⟩ :
      ∃ g gs, Runs.runs frameCntOf (group.map Taken.stamp ++ [q] ++ rest) =
        (group.map Taken.stamp ++ [q] ++ g) :: gs :=
    runs_append_of_const rest (by simp)
      (fun p hp p' hp' => (hconst p hp).trans (hconst p' hp').symm)
  rw [List.append_assoc, List.singleton_append] at hruns
  refine ⟨group.map Taken.stamp ++ [q] ++ g, by rw [hruns]; rfl, ?_, by simp⟩
  rw [List.append_assoc, List.head?_append_of_ne_nil _ (by simpa using hne)]

end Runs

/-! ## One packet -/

section Push

variable {w : ℕ} {first : UInt64} {rest : List (DataPacketView × UInt64)} {last : Taken}
  {g : Grouping} {p : DataPacketView × UInt64}

theorem Counting.changed_iff (h : Counting w first rest last g) :
    (g.state.havePrev && p.1.header.frameCnt != g.state.prevFrameCnt) = true ↔
      last.pkt.header.frameCnt ≠ (g.state.taken p.1 p.2).pkt.header.frameCnt := by
  rw [h.following.havePrev, h.following.prevFrameCnt, Bool.true_and, bne_iff_ne]
  exact ne_comm

theorem Counting.unchanged (h : Counting w first rest last g)
    (hsame : (g.state.havePrev && p.1.header.frameCnt != g.state.prevFrameCnt) = false) :
    last.pkt.header.frameCnt = (g.state.taken p.1 p.2).pkt.header.frameCnt := by
  by_contra hdiff
  exact absurd (hsame.symm.trans (h.changed_iff.mpr hdiff)) (by decide)

variable (h : Counting w first ((g.state.taken p.1 p.2).stamp :: rest) last g)

include h

/-- A packet with the `frame_cnt` of the group before it can join it, and comes before the
fallback. -/
theorem Counting.same_frame {front : Taken} {others : List Taken}
    (hcurrent : g.current = front :: others)
    (hsame : last.pkt.header.frameCnt = (g.state.taken p.1 p.2).pkt.header.frameCnt) :
    Joins front (g.state.taken p.1 p.2) ∧ (g.state.frameCntChangedEver = false →
      (g.state.taken p.1 p.2).t0.toNat < first.toNat + 2 * w) := by
  obtain ⟨hnext, -⟩ := List.isChain_cons_cons.mp h.chain
  have hordered : last.t0.toNat ≤ (g.state.taken p.1 p.2).t0.toNat := hnext.ordered
  have hrange : (g.state.taken p.1 p.2).t0.toNat + 2 * w < 2 ^ 64 := hnext.range
  have hfront : front.t0.toNat ≤ last.t0.toNat := h.times.2 front (by rw [hcurrent]; rfl)
  have hwindow : (g.state.taken p.1 p.2).window.toNat = w := h.window
  have hpos : 0 < (g.state.taken p.1 p.2).window.toNat := window_pos _
  obtain ⟨hdata, htime⟩ := h.grouped.last_types hcurrent h.runs.last
  obtain ⟨run, hhead, hstart, hmem⟩ := exists_first_run rest
    (q := (g.state.taken p.1 p.2).stamp) h.runs.ne_nil (fun a ha => (h.runs.key_eq ha).trans hsame)
  rw [hcurrent] at hstart
  constructor
  · have hfits : (g.state.taken p.1 p.2).t0.toNat - front.t0.toNat +
        (g.state.taken p.1 p.2).pkt.header.timeInterval.toNat * 100 ≤ 2 ^ 32 - 1 :=
      h.fits run (List.mem_of_mem_head? hhead) front.stamp hstart _ hmem
    exact joins_of_times (hnext.dataType.trans hdata) (hnext.timeType.trans htime) (by omega)
      (by omega) hfits
  · intro hever
    obtain htrue | hearly := h.early
    · exact absurd (hever.symm.trans htrue) (by decide)
    · exact hearly run hhead _ hmem

theorem Counting.not_reordered : (g.state.observe p.1.header p.2).1.drop.reordered = false := by
  obtain ⟨hnext, -⟩ := List.isChain_cons_cons.mp h.chain
  exact (h.following.reordered_iff (q := p.1) p.2).mpr (.inr hnext.gap)

/-- The next packet in order is accepted, and followed. -/
theorem Counting.accepts :
    g.state.accepts p.1 p.2 = true ∧ Following p.1 (g.state.push p.1 p.2).2 := by
  obtain ⟨hnext, -⟩ := List.isChain_cons_cons.mp h.chain
  exact push_of_not_reordered hnext.points h.not_reordered

/-- It is no reason for the fallback. -/
theorem Counting.trackFallback :
    (g.state.observe p.1.header p.2).2.trackFallback (g.state.observe p.1.header p.2).1 =
      { (g.state.observe p.1.header p.2).2 with
        firstTime := some first
        frameCntChangedEver := g.state.frameCntChangedEver ||
          (g.state.havePrev && p.1.header.frameCnt != g.state.prevFrameCnt) } := by
  obtain ⟨hnext, -⟩ := List.isChain_cons_cons.mp h.chain
  have hordered : last.t0.toNat ≤ (g.state.taken p.1 p.2).t0.toNat := hnext.ordered
  have hrange : (g.state.taken p.1 p.2).t0.toNat + 2 * w < 2 ^ 64 := hnext.range
  obtain ⟨front, others, hcurrent⟩ := List.exists_cons_of_ne_nil h.runs.ne_nil
  have hfirst := h.times.1
  refine trackFallback_of_counting (s := (g.state.observe p.1.header p.2).2)
    (o := (g.state.observe p.1.header p.2).1) h.mode h.fallback h.firstTime
    (UInt64.le_iff_toNat_le.mpr (hfirst.trans hordered)) ?_
  intro hsame hever
  have hlt := (h.same_frame hcurrent (h.unchanged hsame)).2 hever
  rw [← toNat_add_two_mul (t := first) h.window (by omega)] at hlt
  exact UInt64.lt_iff_toNat_lt.mpr hlt

theorem Counting.tracks :
    Tracks { (g.state.observe p.1.header p.2).2 with
      firstTime := some first
      frameCntChangedEver := g.state.frameCntChangedEver ||
        (g.state.havePrev && p.1.header.frameCnt != g.state.prevFrameCnt) }
      (g.state.push p.1 p.2).2 := by
  have htracks := push_tracks h.accepts.1
  rwa [h.trackFallback] at htracks

/-- A frame is returned exactly when `frame_cnt` changes. -/
theorem Counting.cut :
    ((g.state.push p.1 p.2).1 = none ∧
      (g.state.havePrev && p.1.header.frameCnt != g.state.prevFrameCnt) = false) ∨
    ((g.state.push p.1 p.2).1.isSome = true ∧
      (g.state.havePrev && p.1.header.frameCnt != g.state.prevFrameCnt) = true) := by
  obtain ⟨front, others, hcurrent⟩ := List.exists_cons_of_ne_nil h.runs.ne_nil
  have hinactive : (g.state.taken p.1 p.2).active = false := by
    show FrameAssembler.timeWindowActive _ = false
    rw [h.trackFallback]
    have hmode : (g.state.observe p.1.header p.2).2.policy.mode = .kFrameCounter := h.mode
    have hfallback : (g.state.observe p.1.header p.2).2.fallback = false := h.fallback
    simp [timeWindowActive, hmode, hfallback]
  obtain ⟨houtcome, -, -⟩ := push_effect h.accepts.1 h.grouped.pending h.grouped.current
  rw [hcurrent] at houtcome
  obtain ⟨hnone, -, hfalse⟩ | ⟨hsome, -, htrue⟩ :=
    houtcome.of_inactive (fun hsame => (h.same_frame hcurrent (h.unchanged hsame)).1) hinactive
  · exact .inl ⟨hnone, hfalse⟩
  · exact .inr ⟨hsome, htrue⟩

theorem Counting.runs_push :
    GroupedBy (fun a => a.pkt.header.frameCnt) (g.state.taken p.1 p.2)
      (g.step (.push p.1 p.2)) := by
  refine h.runs.push h.accepts.1 ?_
  rw [← h.changed_iff]
  obtain ⟨hnone, hfalse⟩ | ⟨hsome, htrue⟩ := h.cut
  · rw [hnone, hfalse]
    simp
  · rw [hsome, htrue]

/-- What the packets to come have to do with the partial frame. -/
theorem Counting.ahead :
    (∀ a ∈ (g.step (.push p.1 p.2)).current.head?,
        a.t0.toNat ≤ (g.state.taken p.1 p.2).t0.toNat) ∧
      (∀ run ∈ Runs.runs frameCntOf ((g.step (.push p.1 p.2)).current.map Taken.stamp ++ rest),
        FitsFrame run) ∧
      ((g.step (.push p.1 p.2)).state.frameCntChangedEver = true ∨ ∀ run ∈ (Runs.runs frameCntOf
            ((g.step (.push p.1 p.2)).current.map Taken.stamp ++ rest)).head?, ∀ q ∈ run,
          q.2.toNat < first.toNat + 2 * w) := by
  obtain ⟨hnext, -⟩ := List.isChain_cons_cons.mp h.chain
  have haccepts := h.accepts.1
  have hever : (g.step (.push p.1 p.2)).state.frameCntChangedEver =
      (g.state.frameCntChangedEver || (g.state.havePrev && p.1.header.frameCnt !=
        g.state.prevFrameCnt)) := by
    rw [Grouping.step_push_state, h.tracks.frameCntChangedEver]
  rw [hever]
  obtain ⟨hnone, hfalse⟩ | ⟨hsome, htrue⟩ := h.cut
  · -- The packet was the first of those to come in the run of the group.
    rw [Grouping.step_push_joined haccepts hnone, List.map_append, List.append_assoc, hfalse,
      Bool.or_false]
    refine ⟨?_, h.fits, h.early⟩
    obtain ⟨front, others, hcurrent⟩ := List.exists_cons_of_ne_nil h.runs.ne_nil
    rw [hcurrent]
    intro a mem
    rw [← Option.some.inj mem]
    exact (h.times.2 front (by rw [hcurrent]; rfl)).trans hnext.ordered
  · obtain ⟨frame, hframe⟩ := Option.isSome_iff_exists.mp hsome
    have hend : (g.current.map Taken.stamp).getLast? = some last.stamp := by
      rw [List.getLast?_map, h.runs.last]
      rfl
    have hcut : Runs.runs frameCntOf
          (g.current.map Taken.stamp ++ (g.state.taken p.1 p.2).stamp :: rest) =
        Runs.runs frameCntOf (g.current.map Taken.stamp) ++
          Runs.runs frameCntOf ((g.state.taken p.1 p.2).stamp :: rest) :=
      runs_append_other hend (h.changed_iff.mp htrue)
    rw [Grouping.step_push_closed haccepts hframe, htrue, Bool.or_true]
    refine ⟨?_, ?_, .inl rfl⟩
    · intro a mem
      rw [← Option.some.inj mem]
    · intro run mem
      refine h.fits run ?_
      rw [hcut]
      exact List.mem_append_right _ mem

/-- **The next packet in order is accepted and grouped by its `frame_cnt`.** -/
theorem Counting.push :
    g.state.accepts p.1 p.2 = true ∧
      Counting w first rest (g.state.taken p.1 p.2) (g.step (.push p.1 p.2)) := by
  obtain ⟨hnext, hrest⟩ := List.isChain_cons_cons.mp h.chain
  obtain ⟨haccepts, hfollowing⟩ := h.accepts
  obtain ⟨htimes, hfits, hearly⟩ := h.ahead
  have hstate : (g.step (.push p.1 p.2)).state = (g.state.push p.1 p.2).2 := g.step_push_state
  have htracks := h.tracks
  refine ⟨haccepts, h.grouped.accepted haccepts, h.runs_push, ?_, ?_, ?_, ?_, ?_, ?_, ?_,
    ⟨h.times.1.trans hnext.ordered, htimes⟩, hrest, hfits, hearly⟩
  · rw [hstate, htracks.window]
    exact h.window
  · rw [hstate, htracks.policy]
    exact h.mode
  · rw [hstate, htracks.fallback]
    exact h.fallback
  · rw [hstate, htracks.firstTime]
  · rw [hstate]
    exact hfollowing
  · rw [hstate, push_accepted haccepts]
    rfl
  · have hpoints : isIgnored p.1.header = false := hnext.points
    rw [hstate, push_counts_reordered p.2 hpoints, h.not_reordered, h.reordered]
    rfl

end Push

/-! ## The missing numbers -/

variable {s : ℕ}

/-- The gap between two packets is the number of packets between them. -/
theorem toNat_gap {s' : ℕ} (hlt : s < s') (hnear : s' - s ≤ 32769) :
    (DropCounter.gap (UInt16.ofNat s) (UInt16.ofNat s')).toNat = s' - s - 1 := by
  have hsum : UInt16.ofNat s' = UInt16.ofNat (s' - s - 1) + (UInt16.ofNat s + 1) := by
    have hnat : s' = s' - s - 1 + (s + 1) := by omega
    have hone : UInt16.ofNat 1 = 1 := rfl
    conv_lhs => rw [hnat, UInt16.ofNat_add, UInt16.ofNat_add, hone]
  rw [DropCounter.gap, hsum, UInt16.add_sub_cancel]
  refine UInt16.toNat_ofNat_of_lt' ?_
  rw [UInt16.size]
  omega

theorem gap_le {s' : ℕ} (hlt : s < s') (hnear : s' - s ≤ 32769) :
    DropCounter.gap (UInt16.ofNat s) (UInt16.ofNat s') ≤ 0x8000 := by
  have hword : (0x8000 : UInt16).toNat = 32768 := rfl
  rw [UInt16.le_iff_toNat_le, toNat_gap hlt hnear, hword]
  omega

/-- Without a restart, a forward step is counted as its gap. -/
theorem DropCounter.observe_dropped {d : DropCounter} {udpCnt : UInt16} {frameChanged : Bool}
    (hhave : d.have_ = true) (hgap : DropCounter.gap d.last udpCnt ≤ 0x8000)
    (hreset : ¬(udpCnt = 0 ∧ frameChanged = true)) :
    (d.observe udpCnt frameChanged).1.dropped = (DropCounter.gap d.last udpCnt).toUInt32 := by
  simp only [DropCounter.observe, hhave, Bool.true_eq_false, if_false, hreset, or_false]
  split_ifs with hzero hback
  · rw [hzero]
    rfl
  · exact absurd hgap (UInt16.not_le.mpr hback)
  · rfl

/-- Between packets of one data type, the gap is the drop counter's. -/
theorem observe_drop_of_same_type {s : FrameAssembler} {h : DataPacketHeader}
    (htype : s.prevDataType = h.dataType) (recvTimeNs : UInt64) :
    (s.observe h recvTimeNs).1.drop =
      (s.drops.observe h.udpCnt (s.havePrev && h.frameCnt != s.prevFrameCnt)).1 := by
  simp [observe, htype]

/-- A packet in sequence with its number, and those to come. -/
structure Numbered (s₁ sₙ s : ℕ) (numbers : List ℕ) (rest : List (DataPacketView × UInt64))
    (last : Taken) (g : Grouping) : Prop where
  udpCnt : last.pkt.header.udpCnt = UInt16.ofNat s
  udpCnts : (rest.map fun p => p.1.header.udpCnt) = numbers.map UInt16.ofNat
  chain : (s :: numbers).IsChain fun s s' => s < s' ∧ s' - s ≤ 32769
  noReset : (last.stamp :: rest).IsChain fun p q =>
    q.1.header.frameCnt ≠ p.1.header.frameCnt → q.1.header.udpCnt ≠ 0
  final : (s :: numbers).getLast? = some sₙ
  dropped : s₁ + g.taken.length + g.state.counters.droppedPackets = s + 1

/-- The next number: the packets between are counted as dropped. -/
theorem Numbered.push {w s₁ sₙ : ℕ} {numbers : List ℕ} {first : UInt64}
    {rest : List (DataPacketView × UInt64)} {last : Taken} {g : Grouping}
    {p : DataPacketView × UInt64}
    (hcount : Counting w first ((g.state.taken p.1 p.2).stamp :: rest) last g)
    (h : Numbered s₁ sₙ s numbers ((g.state.taken p.1 p.2).stamp :: rest) last g) :
    ∃ s' numbers', Numbered s₁ sₙ s' numbers' rest (g.state.taken p.1 p.2)
      (g.step (.push p.1 p.2)) := by
  cases numbers with
  | nil => exact absurd h.udpCnts (by simp)
  | cons s' numbers =>
    obtain ⟨hudpCnt, hrest⟩ := List.cons_eq_cons.mp h.udpCnts
    obtain ⟨⟨hlt, hnear⟩, hchain⟩ := List.isChain_cons_cons.mp h.chain
    obtain ⟨hreset, hnoReset⟩ := List.isChain_cons_cons.mp h.noReset
    obtain ⟨hnext, -⟩ := List.isChain_cons_cons.mp hcount.chain
    obtain ⟨haccepts, -⟩ := hcount.push
    have hudp : p.1.header.udpCnt = UInt16.ofNat s' := hudpCnt
    have hlast : g.state.drops.last = UInt16.ofNat s := by
      rw [hcount.following.drops, h.udpCnt]
    -- the 16-bit gap is the true one: the numbers are at most 0x8001 apart, and `udp_cnt`
    -- is not reset between them
    have hdropped : (g.state.observe p.1.header p.2).1.drop.dropped.toNat = s' - s - 1 := by
      have htype : g.state.prevDataType = p.1.header.dataType :=
        hcount.prevDataType.trans hnext.dataType.symm
      rw [observe_drop_of_same_type htype, DropCounter.observe_dropped, hlast, hudp,
        UInt16.toNat_toUInt32, toNat_gap hlt hnear]
      · rw [hcount.following.drops]
      · rw [hlast, hudp]
        exact gap_le hlt hnear
      · rintro ⟨hzero, hchanged⟩
        exact hreset (Ne.symm (hcount.changed_iff.mp hchanged)) hzero
    refine ⟨s', numbers, hudpCnt, hrest, hchain, hnoReset, ?_, ?_⟩
    · rw [← h.final, List.getLast?_cons_cons]
    · have htaken : (g.step (.push p.1 p.2)).taken.length = g.taken.length + 1 := by
        simp only [Grouping.step, if_pos haccepts, List.length_append, List.length_singleton]
      have hcounter : (g.step (.push p.1 p.2)).state.counters.droppedPackets =
          g.state.counters.droppedPackets + (s' - s - 1) := by
        rw [Grouping.step_push_state, push_accepted haccepts, (accept_cases _ _ _).2.2.1,
          observe_droppedPackets, hdropped]
      have hsum := h.dropped
      rw [htaken, hcounter]
      omega

/-! ## Whole streams -/

/-- A stream of packets with their mapped times, in order: packets of one data type and one
time base with the given true numbers, whose `frame_cnt` changes before the fallback and
whose runs of one `frame_cnt` fit into a frame. -/
structure CountedStream (w : ℕ) (dataType : DataType) (timeType : TimeType) (numbers : List ℕ)
    (stream : List (DataPacketView × UInt64)) : Prop where
  points : ∀ p ∈ stream, isIgnored p.1.header = false
  dataType : ∀ p ∈ stream, p.1.header.dataType = dataType
  timeType : ∀ p ∈ stream, p.1.header.timeType = timeType
  udpCnt : (stream.map fun p => p.1.header.udpCnt) = numbers.map UInt16.ofNat
  increasing : numbers.IsChain fun s s' => s < s' ∧ s' - s ≤ 32769
  ordered : stream.IsChain fun p q => p.2.toNat ≤ q.2.toNat
  range : ∀ p ∈ stream, p.2.toNat + 2 * w < 2 ^ 64
  changes : ∀ p ∈ stream.head?, ∀ run ∈ (Runs.runs frameCntOf stream).head?, ∀ q ∈ run,
    q.2.toNat < p.2.toNat + 2 * w
  fits : ∀ run ∈ Runs.runs frameCntOf stream, FitsFrame run

theorem CountedStream.chain {w : ℕ} {dataType : DataType} {timeType : TimeType}
    {numbers : List ℕ} {stream : List (DataPacketView × UInt64)}
    (h : CountedStream w dataType timeType numbers stream) : stream.IsChain (InOrder w) := by
  have hgaps : stream.IsChain fun p q =>
      DropCounter.gap p.1.header.udpCnt q.1.header.udpCnt ≤ 0x8000 := by
    have hnumbers : (numbers.map UInt16.ofNat).IsChain fun u v => DropCounter.gap u v ≤ 0x8000 := by
      rw [List.isChain_map]
      exact h.increasing.imp fun s s' hstep => gap_le hstep.1 hstep.2
    rwa [← h.udpCnt, List.isChain_map] at hnumbers
  have hordered := List.isChain_iff_getElem.mp h.ordered
  have hgap := List.isChain_iff_getElem.mp hgaps
  refine List.isChain_iff_getElem.mpr fun i hi => ?_
  have hp := List.getElem_mem (l := stream) (n := i) (by omega)
  have hq := List.getElem_mem hi
  exact ⟨h.points _ hq, (h.dataType _ hq).trans (h.dataType _ hp).symm,
    (h.timeType _ hq).trans (h.timeType _ hp).symm, hgap i hi, hordered i hi, h.range _ hq⟩

section Stream

variable {policy : FramePolicy} {timestamps : TimestampPolicy} {w : ℕ} {dataType : DataType}
  {timeType : TimeType} {numbers : List ℕ} {p : DataPacketView × UInt64}
  {received : List (DataPacketView × UInt64)}

/-- The first packet carries points. -/
theorem CountedStream.points_first (hstream : CountedStream w dataType timeType numbers
    (stamped { policy := timestamps } (p :: received))) : isIgnored p.1.header = false :=
  hstream.points (p.1, (TimeMapper.map { policy := timestamps } p.1.header p.2).1)
    List.mem_cons_self

theorem Counting.first (hmode : policy.mode = .kFrameCounter)
    (hwindow : (new policy timestamps).window.toNat = w)
    (hstream : CountedStream w dataType timeType numbers
      (stamped { policy := timestamps } (p :: received))) :
    Counting w ((new policy timestamps).taken p.1 p.2).t0
      (stamped (TimeMapper.map { policy := timestamps } p.1.header p.2).2 received)
      ((new policy timestamps).taken p.1 p.2)
      (Grouping.step { state := new policy timestamps } (.push p.1 p.2)) := by
  have hpoints := hstream.points_first
  have hrange : ((new policy timestamps).taken p.1 p.2).t0.toNat + 2 * w < 2 ^ 64 :=
    hstream.range _ List.mem_cons_self
  obtain ⟨haccepts, -, hstep⟩ := first_push policy timestamps hpoints
  have htracks := first_tracks hmode hwindow hpoints hrange
  have hnot := new_reordered policy timestamps p.1.header p.2
  obtain ⟨-, hfollowing⟩ := push_of_not_reordered hpoints hnot
  have hstate : (Grouping.step { state := new policy timestamps } (.push p.1 p.2)).state =
      ((new policy timestamps).push p.1 p.2).2 := Grouping.step_push_state
  constructor
  · exact (Grouped.fresh policy timestamps).accepted haccepts
  · exact first_groupedBy policy timestamps _ hpoints
  · rw [hstate, htracks.window]
    exact hwindow
  · rw [hstate, htracks.policy]
    exact hmode
  · rw [hstate, htracks.fallback]
    rfl
  · rw [hstate, htracks.firstTime]
  · rw [hstate]
    exact hfollowing
  · rw [hstate, push_accepted haccepts]
    rfl
  · rw [hstate, push_counts_reordered p.2 hpoints, hnot]
    rfl
  · rw [hstep]
    refine ⟨le_rfl, ?_⟩
    intro a mem
    rw [← Option.some.inj mem]
  · exact hstream.chain
  · rw [hstep]
    exact hstream.fits
  · rw [hstep]
    exact .inr (hstream.changes _ rfl)

theorem Numbered.first {s₁ sₙ : ℕ} {rest : List (DataPacketView × UInt64)}
    (hpoints : isIgnored p.1.header = false) (hudpCnt : p.1.header.udpCnt = UInt16.ofNat s₁)
    (hrest : (rest.map fun p => p.1.header.udpCnt) = numbers.map UInt16.ofNat)
    (hchain : (s₁ :: numbers).IsChain fun s s' => s < s' ∧ s' - s ≤ 32769)
    (hreset : (((new policy timestamps).taken p.1 p.2).stamp :: rest).IsChain fun p q =>
      q.1.header.frameCnt ≠ p.1.header.frameCnt → q.1.header.udpCnt ≠ 0)
    (hfinal : (s₁ :: numbers).getLast? = some sₙ) :
    Numbered s₁ sₙ s₁ numbers rest ((new policy timestamps).taken p.1 p.2)
      (Grouping.step { state := new policy timestamps } (.push p.1 p.2)) := by
  obtain ⟨haccepts, -, hstep⟩ := first_push policy timestamps hpoints
  refine ⟨hudpCnt, hrest, hchain, hreset, hfinal, ?_⟩
  have hzero : (Grouping.step { state := new policy timestamps }
      (.push p.1 p.2)).state.counters.droppedPackets = 0 := by
    rw [Grouping.step_push_state, push_accepted haccepts, (accept_cases _ _ _).2.2.1]
    rfl
  rw [hzero, hstep]
  rfl

/-- Behind the stream, every number from the first to the last is that of a packet or was
counted as dropped. -/
theorem droppedPackets_stream {s₁ sₙ : ℕ} (hmode : policy.mode = .kFrameCounter)
    (hwindow : (new policy timestamps).window.toNat = w)
    (hstream : CountedStream w dataType timeType (s₁ :: numbers)
      (stamped { policy := timestamps } (p :: received)))
    (hreset : (stamped { policy := timestamps } (p :: received)).IsChain fun p q =>
      q.1.header.frameCnt ≠ p.1.header.frameCnt → q.1.header.udpCnt ≠ 0)
    (hfinal : (s₁ :: numbers).getLast? = some sₙ) :
    s₁ + (grouping policy timestamps (pushAll (p :: received))).taken.length +
      (grouping policy timestamps (pushAll (p :: received))).state.counters.droppedPackets =
        sₙ + 1 := by
  have hpoints := hstream.points_first
  have hfirst := Counting.first hmode hwindow hstream
  obtain ⟨hudpCnt, hrest⟩ := List.cons_eq_cons.mp hstream.udpCnt
  obtain ⟨⟨last, -, s, rest, hnumbered⟩, -⟩ := grouping_stream policy timestamps
    (P := fun rest last g => Counting w ((new policy timestamps).taken p.1 p.2).t0 rest last g ∧
      ∃ s numbers, Numbered s₁ sₙ s numbers rest last g)
    (by
      rintro rest last g q ⟨hcount, s, numbers, hnumbered⟩
      exact ⟨hcount.push.1, hcount.push.2, hnumbered.push hcount⟩)
    hpoints ⟨hfirst, s₁, numbers, .first hpoints hudpCnt hrest hstream.increasing hreset hfinal⟩
  have hdone : rest = [] := by
    simpa using hnumbered.udpCnts.symm
  have hend : s = sₙ := by
    have hlast := hnumbered.final
    rw [hdone] at hlast
    exact Option.some.inj hlast
  rw [← hend]
  exact hnumbered.dropped

end Stream

/-- **Frame-counter assembly cuts at counter changes, also under loss.**  Let the packets of
a stream in order be pushed into a fresh assembler in frame-counter mode and the last frame
be flushed.  Every packet is accepted and none taken for reordered, the frames are the
maximal runs of equal `frame_cnt`, and if no packet has `udp_cnt` zero where `frame_cnt`
changes, the dropped packets are the numbers missing between the first and the last. -/
theorem frameCounter_runs (policy : FramePolicy) (timestamps : TimestampPolicy)
    {received : List (DataPacketView × UInt64)} {w : ℕ} {dataType : DataType}
    {timeType : TimeType} {numbers : List ℕ} (hmode : policy.mode = .kFrameCounter)
    (hwindow : (w : ℤ) = max policy.window.toInt 1)
    (hstream : CountedStream w dataType timeType numbers
      (stamped { policy := timestamps } received)) :
    let g := grouping policy timestamps (pushAll received)
    g.taken.map Taken.stamp = stamped { policy := timestamps } received ∧
    (run policy timestamps (pushAll received ++ [.flush])).returned =
      assembled (Runs.runs (fun a => a.pkt.header.frameCnt) g.taken) ∧
    g.state.counters.reordered = 0 ∧
    ((stamped { policy := timestamps } received).IsChain (fun p q =>
        q.1.header.frameCnt ≠ p.1.header.frameCnt → q.1.header.udpCnt ≠ 0) →
      ∀ s₁ ∈ numbers.head?, ∀ sₙ ∈ numbers.getLast?,
        g.state.counters.droppedPackets = sₙ - s₁ - (numbers.length - 1)) := by
  intro g
  cases received with
  | nil =>
    have hnumbers : numbers = [] := by
      simpa [stamped] using hstream.udpCnt.symm
    subst hnumbers
    exact ⟨rfl, rfl, rfl, fun _ s₁ hs₁ => absurd hs₁ (by simp)⟩
  | cons =>
    have hw : (new policy timestamps).window.toNat = w := by
      have hint := (new policy timestamps).toNat_window
      have hpolicy : (new policy timestamps).policy = policy := rfl
      rw [hpolicy, ← hwindow] at hint
      exact_mod_cast hint
    have hfirst := Counting.first hmode hw hstream
    obtain ⟨⟨last, hlast⟩, htaken⟩ := grouping_stream policy timestamps
      (fun rest last g q h => h.push) hstream.points_first hfirst
    -- the runs of `frame_cnt` are there after the last push, and the flush returns the last one
    refine ⟨htaken, ?_, hlast.reordered, ?_⟩
    · rw [run_concat, ← grouping_toRun, ← Grouping.step_toRun,
        hlast.runs.flush (grouped_run policy timestamps _)]
    · intro hreset s₁ hs₁ sₙ hsₙ
      obtain ⟨numbers, rfl⟩ : ∃ rest, numbers = s₁ :: rest := List.head?_eq_some_iff.mp hs₁
      have hlength : g.taken.length = (s₁ :: numbers).length := by
        rw [← List.length_map (f := Taken.stamp), htaken]
        simpa using congrArg List.length hstream.udpCnt
      have hsum : s₁ + g.taken.length + g.state.counters.droppedPackets = sₙ + 1 :=
        droppedPackets_stream hmode hw hstream hreset hsₙ
      rw [hlength] at hsum
      rw [List.length_cons] at hsum ⊢
      omega

/-- Two frames of two packets, the first packet of the second lost. -/
def lossyFrames : List (DataPacketView × UInt64) :=
  [(framePacket 0 7, 0), (framePacket 0 8, 0), (framePacket 1 10, 0)]

/-- The loss does not move the cut, and is counted. -/
theorem frameCounter_runs_lossyFrames :
    (run {} .kLidar (pushAll lossyFrames ++ [.flush])).returned.length = 2 ∧
      (run {} .kLidar (pushAll lossyFrames ++ [.flush])).returned =
        assembled (Runs.runs (fun a => a.pkt.header.frameCnt)
          (grouping {} .kLidar (pushAll lossyFrames)).taken) ∧
      (grouping {} .kLidar (pushAll lossyFrames)).state.counters.droppedPackets =
        10 - 7 - (3 - 1) := by
  have hstream : CountedStream 100000000 .kCartesian32 .kNoSync [7, 8, 10]
      (stamped { policy := .kLidar } lossyFrames) := by
    have hruns : Runs.runs frameCntOf (stamped { policy := .kLidar } lossyFrames) =
        [[(framePacket 0 7, 0), (framePacket 0 8, 0)], [(framePacket 1 10, 0)]] := rfl
    constructor
    case fits =>
      rw [hruns]
      unfold FitsFrame
      decide
    all_goals decide
  obtain ⟨-, hframes, -, hdropped⟩ := frameCounter_runs {} .kLidar rfl rfl hstream
  exact ⟨by decide +kernel, hframes, hdropped (by decide) 7 rfl 10 rfl⟩

end LivoxMid360.FrameAssembler
