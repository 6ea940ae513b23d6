import LivoxMid360.FrameAssembler.Conservation
import LivoxMid360.Lib.Runs

/-!
# The groups behind the frames

A frame is made of consecutive accepted packets, and everything in it follows from them:
`assemble` is the frame of a group of packets, each with the mapped time, the gap and the
window `push` saw for it (`Taken`).

`Grouping` is a run that also keeps the groups: of the frames it returned, of the partial
frame, and all packets taken so far.  The assembler itself never looks back at a group, so
this is history beside the state; `grouping_toRun` says that the run is the same one.

* `Outcome` lists what an accepted packet can do: start the first frame, join the partial
  one, or close it, on the grid of the time window or off it.  Each case has its guard, and
  `push_outcome` says that every accepted packet falls under one of them.
* `grouped_run`: the frames a run returns are the frames of its groups, and every packet of
  a group could join the packet that started it (`Joins`).
* `runs_step`: when a packet closes the partial frame exactly if its key differs from the
  key of the packet before, the groups are the runs of equal keys.
-/

namespace LivoxMid360.FrameAssembler

/-! ## The frame of a group -/

/-- A packet as `push` took it. -/
structure Taken where
  pkt : DataPacketView
  /-- The mapped time. -/
  t0 : UInt64
  /-- The packets missing before it. -/
  dropped : UInt32
  /-- The window in force, in nanoseconds. -/
  window : UInt64
  /-- The time window decided about the packet, by policy or by fallback. -/
  active : Bool

namespace Taken

/-- `span_ns` of `push`. -/
def spanNs (a : Taken) : UInt64 :=
  a.pkt.header.timeInterval.toUInt64 * 100

def sampleTimes (a : Taken) : List UInt64 :=
  (List.range a.pkt.header.dotNum.toNat).map (sampleTime a.pkt.header a.t0)

/-- The points of the packet in a frame with the given base time. -/
def points (baseTimeNs : UInt64) (a : Taken) : List Point :=
  (List.range a.pkt.header.dotNum.toNat).map (framePoint a.pkt a.t0 baseTimeNs)

end Taken

/-- The frame made of a group of packets: the first one gives the base time, the frame
counter and the types, all of them the points. -/
def assemble (index : UInt32) : List Taken → Frame
  | [] => { index }
  | first :: rest =>
    { index
      baseTimeNs := first.t0
      endTimeNs := ((first :: rest).flatMap Taken.sampleTimes).foldl max first.t0
      points := (first :: rest).flatMap (Taken.points first.t0)
      packets := UInt32.ofNat (first :: rest).length
      droppedPackets := ((first :: rest).map Taken.dropped).foldl (· + ·) 0
      frameCnt := first.pkt.header.frameCnt
      sourceType := first.pkt.header.dataType
      timeType := first.pkt.header.timeType }

/-- `take_frame` only writes the index. -/
theorem assemble_index (index : UInt32) (group : List Taken) :
    { assemble 0 group with index } = assemble index group := by
  cases group <;> rfl

/-- What `append` and the frame's counters make of the frame of a group. -/
theorem assemble_concat (index : UInt32) (first : Taken) (rest : List Taken) (a : Taken) :
    assemble index (first :: rest ++ [a]) =
      { append (assemble index (first :: rest)) a.pkt a.t0 with
        droppedPackets := (assemble index (first :: rest)).droppedPackets + a.dropped
        packets := (assemble index (first :: rest)).packets + 1 } := by
  have hlength : UInt32.ofNat ((first :: rest) ++ [a]).length =
      UInt32.ofNat (first :: rest).length + 1 := by
    rw [List.length_append]
    exact UInt32.ofNat_add ..
  have hend : (((first :: rest) ++ [a]).flatMap Taken.sampleTimes).foldl max first.t0 =
      (List.range a.pkt.header.dotNum.toNat).foldl
        (fun e i => max e (sampleTime a.pkt.header a.t0 i))
        (((first :: rest).flatMap Taken.sampleTimes).foldl max first.t0) := by
    rw [List.flatMap_append, List.foldl_append]
    simp only [List.flatMap_cons, List.flatMap_nil, List.append_nil, Taken.sampleTimes,
      List.foldl_map]
  have hdropped : (((first :: rest) ++ [a]).map Taken.dropped).foldl (· + ·) 0 =
      ((first :: rest).map Taken.dropped).foldl (· + ·) 0 + a.dropped := by
    rw [List.map_append, List.foldl_append]
    rfl
  have hpoints : ((first :: rest) ++ [a]).flatMap (Taken.points first.t0) =
      (first :: rest).flatMap (Taken.points first.t0) ++ a.points first.t0 := by
    rw [List.flatMap_append]
    simp
  rw [List.cons_append] at hlength hend hdropped hpoints
  simp only [List.cons_append, assemble, hlength, hend, hdropped, hpoints]
  rfl

/-! ## Joining a group -/

/-- A packet can join the frame that `first` started: none of the conditions that close a
frame off the grid holds. -/
structure Joins (first a : Taken) : Prop where
  dataType : a.pkt.header.dataType = first.pkt.header.dataType
  timeType : a.pkt.header.timeType = first.pkt.header.timeType
  notBack : first.t0 < a.t0 + a.window
  fits : first.t0 ≤ a.t0 → a.t0 - first.t0 + a.spanNs ≤ 0xFFFFFFFF

/-- A group a frame can have: point packets that could join the first one. -/
inductive Gathered : List Taken → Prop where
  | intro {first : Taken} {rest : List Taken}
      (points : ∀ a ∈ first :: rest, isIgnored a.pkt.header = false)
      (joins : ∀ a ∈ rest, Joins first a) : Gathered (first :: rest)

variable {a : Taken}

theorem Gathered.singleton (h : isIgnored a.pkt.header = false) : Gathered [a] := by
  refine .intro ?_ ?_
  · intro b mem
    rwa [List.mem_singleton.mp mem]
  · intro b mem
    exact absurd mem List.not_mem_nil

variable {first : Taken} {rest : List Taken}

theorem Gathered.concat (h : Gathered (first :: rest)) (hpoints : isIgnored a.pkt.header = false)
    (hjoins : Joins first a) : Gathered (first :: rest ++ [a]) := by
  obtain ⟨points, joins⟩ := h
  rw [List.cons_append]
  refine .intro ?_ ?_
  · intro b mem
    rw [← List.cons_append] at mem
    obtain mem | mem := List.mem_append.mp mem
    · exact points b mem
    · rwa [List.mem_singleton.mp mem]
  · intro b mem
    obtain mem | mem := List.mem_append.mp mem
    · exact joins b mem
    · rwa [List.mem_singleton.mp mem]

variable {group : List Taken}

/-- The frame of a group has points. -/
theorem Gathered.points_ne_nil (h : Gathered group) (index : UInt32) :
    (assemble index group).points ≠ [] := by
  obtain @⟨first, rest, points, -⟩ := h
  have hdots : first.pkt.header.dotNum.toNat ≠ 0 := by
    have hkept := points first List.mem_cons_self
    simp only [isIgnored, Bool.or_eq_false_iff, decide_eq_false_iff_not] at hkept
    exact fun hzero => hkept.2 (UInt16.toNat_inj.mp hzero)
  intro hnil
  have hfirst := (List.flatMap_eq_nil_iff.mp hnil) first List.mem_cons_self
  rw [Taken.points, List.map_eq_nil_iff, List.range_eq_nil] at hfirst
  exact hdots hfirst

/-! ## What an accepted packet does -/

/-- An observed packet as the assembler takes it. -/
def takenOf (s : FrameAssembler) (pkt : DataPacketView) (o : Observation) : Taken where
  pkt
  t0 := o.t0
  dropped := o.drop.dropped
  window := s.window
  active := (s.trackFallback o).timeWindowActive

/-- A packet as `push` takes it. -/
def taken (s : FrameAssembler) (pkt : DataPacketView) (recvTimeNs : UInt64) : Taken :=
  (s.observe pkt.header recvTimeNs).2.takenOf pkt (s.observe pkt.header recvTimeNs).1

/-- The partial frame is the frame of its group; without a group it is empty. -/
structure Pending (cur : Frame) (group : List Taken) : Prop where
  empty : group = [] → cur.index = 0 ∧ cur.points = [] ∧ cur.packets = 0 ∧ cur.droppedPackets = 0
  frame : group ≠ [] → cur = assemble 0 group

theorem Pending.nil : Pending {} [] :=
  ⟨fun _ => ⟨rfl, rfl, rfl, rfl⟩, fun hne => absurd rfl hne⟩

/-- The index is written when the frame is taken. -/
theorem Pending.index_eq {cur : Frame} (h : Pending cur group) : cur.index = 0 := by
  cases group with
  | nil => exact (h.empty rfl).1
  | cons =>
    rw [h.frame (List.cons_ne_nil _ _)]
    rfl

/-- What an accepted packet does to a partial frame with the given group: the frame it
returns and the start of the window afterwards. -/
inductive Outcome (windowStart : UInt64) (index : UInt32) (frameChanged : Bool) (a : Taken) :
    List Taken → Option Frame → UInt64 → Prop where
  | first : Outcome windowStart index frameChanged a [] none a.t0
  | joined {first : Taken} {rest : List Taken} (joins : Joins first a)
      (inWindow : a.active = true → a.t0 < windowStart + a.window)
      (sameFrame : a.active = false → frameChanged = false) :
      Outcome windowStart index frameChanged a (first :: rest) none windowStart
  | onGrid {first : Taken} {rest : List Taken} (joins : Joins first a) (active : a.active = true)
      (past : windowStart + a.window ≤ a.t0) :
      Outcome windowStart index frameChanged a (first :: rest)
        (some (assemble index (first :: rest)))
        (windowStart + a.window * ((a.t0 - windowStart) / a.window))
  | offGrid {first : Taken} {rest : List Taken}
      (reason : ¬Joins first a ∨ (a.active = false ∧ frameChanged = true)) :
      Outcome windowStart index frameChanged a (first :: rest)
        (some (assemble index (first :: rest))) a.t0

variable {windowStart start : UInt64} {index : UInt32} {frameChanged : Bool} {out : Option Frame}

/-- The packet joins the group or starts the first one, or the group is returned. -/
theorem Outcome.cases (h : Outcome windowStart index frameChanged a group out start) :
    (out = none ∧ (group = [] ∨ ∃ first rest, group = first :: rest ∧ Joins first a)) ∨
      (group ≠ [] ∧ out = some (assemble index group)) := by
  cases h with
  | first => exact .inl ⟨rfl, .inl rfl⟩
  | joined joins => exact .inl ⟨rfl, .inr ⟨_, _, rfl, joins⟩⟩
  | onGrid | offGrid => exact .inr ⟨List.cons_ne_nil _ _, rfl⟩

/-- With the time window active, a packet that could join the frame does so until the
window is over. -/
theorem Outcome.of_active (h : Outcome windowStart index frameChanged a (first :: rest) out start)
    (joins : Joins first a) (active : a.active = true) :
    (out = none ∧ start = windowStart ∧ a.t0 < windowStart + a.window) ∨
      (out.isSome = true ∧ windowStart + a.window ≤ a.t0 ∧
        start = windowStart + a.window * ((a.t0 - windowStart) / a.window)) := by
  cases h with
  | joined _ inWindow => exact .inl ⟨rfl, rfl, inWindow active⟩
  | onGrid _ _ past => exact .inr ⟨rfl, past, rfl⟩
  | offGrid reason =>
    obtain hnot | ⟨hfalse, -⟩ := reason
    · exact absurd joins hnot
    · exact absurd (active.symm.trans hfalse) (by decide)

/-- Without it, a packet that could join the frame does so until `frame_cnt` changes. -/
theorem Outcome.of_inactive (h : Outcome windowStart index frameChanged a (first :: rest) out start)
    (joins : frameChanged = false → Joins first a) (inactive : a.active = false) :
    (out = none ∧ start = windowStart ∧ frameChanged = false) ∨
      (out.isSome = true ∧ start = a.t0 ∧ frameChanged = true) := by
  cases h with
  | joined _ _ sameFrame => exact .inl ⟨rfl, rfl, sameFrame inactive⟩
  | onGrid _ active => exact absurd (active.symm.trans inactive) (by decide)
  | offGrid reason =>
    obtain hnot | ⟨-, hchanged⟩ := reason
    · refine .inr ⟨rfl, rfl, ?_⟩
      rw [← Bool.not_eq_false]
      exact fun hsame => hnot (joins hsame)
    · exact .inr ⟨rfl, rfl, hchanged⟩

/-- The outcome of an accepted packet and the partial frame it leaves: that of the packet
alone when a frame was returned, that of the group with the packet otherwise. -/
structure Effect (s : FrameAssembler) (frameChanged : Bool) (a : Taken) (group : List Taken)
    (result : Option Frame × FrameAssembler) : Prop where
  outcome : Outcome s.windowStart s.nextIndex frameChanged a group result.1 result.2.windowStart
  pending : Pending result.2.cur (if result.1.isSome then [a] else group ++ [a])
  nextIndex : result.2.nextIndex = s.nextIndex + if result.1.isSome then 1 else 0

/-- The conditions that close the partial frame whatever the policy says come last, and
win. -/
theorem closeDecision_eq (s : FrameAssembler) (h : DataPacketHeader) (o : Observation) :
    s.closeDecision h o =
      if h.dataType = s.cur.sourceType ∧ h.timeType = s.cur.timeType ∧
          s.cur.baseTimeNs < o.t0 + s.window ∧ (s.cur.baseTimeNs ≤ o.t0 →
            o.t0 - s.cur.baseTimeNs + h.timeInterval.toUInt64 * 100 ≤ 0xFFFFFFFF) then
        if s.timeWindowActive then
          (decide (o.t0 ≥ s.windowStart + s.window), decide (o.t0 ≥ s.windowStart + s.window))
        else (o.frameChanged, false)
      else (true, false) := by
  unfold closeDecision
  dsimp only
  grind

/-- The bookkeeping of the fallback touches neither the policy nor the window. -/
theorem trackFallback_window (s : FrameAssembler) (o : Observation) :
    (s.trackFallback o).window = s.window ∧ (s.trackFallback o).windowStart = s.windowStart ∧
      (s.trackFallback o).policy = s.policy := by
  unfold trackFallback
  dsimp only
  split_ifs <;> exact ⟨rfl, rfl, rfl⟩

/-- The window in nanoseconds is that of the policy, and at least one. -/
theorem toNat_window (s : FrameAssembler) : (s.window.toNat : ℤ) = max s.policy.window.toInt 1 := by
  have hdef : max s.policy.window 1 = if s.policy.window ≤ 1 then 1 else s.policy.window := rfl
  have hone : (1 : Int64).toInt = 1 := rfl
  rw [window, hdef]
  split_ifs with hle
  · rw [Int64.le_iff_toInt_le, hone] at hle
    rw [max_eq_right hle]
    rfl
  · rw [Int64.le_iff_toInt_le, hone, not_le] at hle
    have hnonneg : 0 ≤ s.policy.window := by
      have hzero : (0 : Int64).toInt = 0 := rfl
      rw [Int64.le_iff_toInt_le]
      omega
    rw [Int64.toNat_toUInt64_of_le hnonneg, Int64.toNatClampNeg, max_eq_left hle.le]
    omega

/-- The window is at least a nanosecond. -/
theorem window_pos (s : FrameAssembler) : 0 < s.window.toNat := by
  have hwindow := s.toNat_window
  have hone := le_max_right s.policy.window.toInt 1
  omega

section Accept

variable {s : FrameAssembler} {pkt : DataPacketView} {o : Observation}

theorem accept_of_empty (h : s.cur.points = []) :
    s.accept pkt o = (none, ((s.trackFallback o).openFrame pkt.header o.t0 false).book pkt o) := by
  have hcur : (s.trackFallback o).cur.points = [] := by
    rw [(s.trackFallback_keeps o).1, h]
  have hclose : (s.trackFallback o).closeFrame pkt.header o = (none, false, s.trackFallback o) :=
    if_pos hcur
  simp only [accept, hclose]

theorem accept_of_close {onGrid : Bool} (h : s.cur.points ≠ [])
    (hclose : (s.trackFallback o).closeDecision pkt.header o = (true, onGrid)) :
    s.accept pkt o = (some (s.trackFallback o).takeFrame.1,
      ((s.trackFallback o).takeFrame.2.openFrame pkt.header o.t0 onGrid).book pkt o) := by
  have hcur : (s.trackFallback o).cur.points ≠ [] := by
    rwa [(s.trackFallback_keeps o).1]
  have htake : (s.trackFallback o).closeFrame pkt.header o =
      (some (s.trackFallback o).takeFrame.1, onGrid, (s.trackFallback o).takeFrame.2) := by
    rw [closeFrame, if_neg hcur, hclose]
    rfl
  simp only [accept, htake]

/-- A packet that starts a frame is its whole group. -/
theorem pending_book_open {s' : FrameAssembler} (onGrid : Bool) (hcur : Pending s'.cur []) :
    Pending ((s'.openFrame pkt.header o.t0 onGrid).book pkt o).cur [s.takenOf pkt o] := by
  obtain ⟨hindex, hpoints, hpackets, hdrops⟩ := hcur.empty rfl
  refine ⟨fun hnil => absurd hnil (List.cons_ne_nil _ []), fun _ => ?_⟩
  simp only [book, openFrame, append, assemble, hindex, hpoints, hpackets, hdrops,
    List.flatMap_cons, List.flatMap_nil, List.append_nil, Taken.points, Taken.sampleTimes,
    List.foldl_map, List.map_cons, List.map_nil, List.foldl_cons, List.foldl_nil, takenOf]
  rfl

variable {first : Taken} {rest : List Taken}

/-- A packet that joins the partial frame joins its group. -/
theorem pending_book {s' : FrameAssembler} (hcur : s'.cur = assemble 0 (first :: rest)) :
    Pending (s'.book pkt o).cur (first :: rest ++ [s.takenOf pkt o]) := by
  refine ⟨fun hnil => absurd hnil (by simp), fun _ => ?_⟩
  rw [assemble_concat, ← hcur]
  rfl

theorem effect_first (hcur : Pending s.cur []) :
    Effect s o.frameChanged (s.takenOf pkt o) [] (s.accept pkt o) := by
  have hempty : s.cur.points = [] := (hcur.empty rfl).2.1
  have hframe : (s.trackFallback o).cur = s.cur := (s.trackFallback_keeps o).1
  have hindex : (s.trackFallback o).nextIndex = s.nextIndex := (s.trackFallback_keeps o).2.1
  have hopen : ((s.trackFallback o).openFrame pkt.header o.t0 false).windowStart = o.t0 := by
    rw [openFrame, if_pos (by rw [hframe]; exact hempty)]
    rfl
  rw [accept_of_empty hempty]
  constructor
  · show Outcome _ _ _ _ [] none
      ((s.trackFallback o).openFrame pkt.header o.t0 false).windowStart
    rw [hopen]
    exact .first
  · exact pending_book_open false (by rwa [hframe])
  · rw [book_nextIndex, ((s.trackFallback o).openFrame_keeps pkt.header o.t0 false).2.2.2.1, hindex]
    exact (UInt32.add_zero _).symm

/-- The partial frame is closed, and the packet starts the next one. -/
theorem effect_closed {onGrid : Bool} (hcur : s.cur = assemble 0 (first :: rest))
    (hpoints : s.cur.points ≠ [])
    (hclose : (s.trackFallback o).closeDecision pkt.header o = (true, onGrid))
    (houtcome : Outcome s.windowStart s.nextIndex o.frameChanged (s.takenOf pkt o) (first :: rest)
      (some (assemble s.nextIndex (first :: rest)))
      (if onGrid then s.windowStart + s.window * ((o.t0 - s.windowStart) / s.window) else o.t0)) :
    Effect s o.frameChanged (s.takenOf pkt o) (first :: rest) (s.accept pkt o) := by
  have hframe : (s.trackFallback o).cur = s.cur := (s.trackFallback_keeps o).1
  have hindex : (s.trackFallback o).nextIndex = s.nextIndex := (s.trackFallback_keeps o).2.1
  obtain ⟨hwindow, hstart, -⟩ := s.trackFallback_window o
  have htaken : (s.trackFallback o).takeFrame.1 = assemble s.nextIndex (first :: rest) := by
    rw [← assemble_index, ← hcur, ← hframe, ← hindex]
    rfl
  have hopen : ((s.trackFallback o).takeFrame.2.openFrame pkt.header o.t0 onGrid).windowStart =
      if onGrid then s.windowStart + s.window * ((o.t0 - s.windowStart) / s.window) else o.t0 := by
    rw [← hstart, ← hwindow]
    rfl
  rw [accept_of_close hpoints hclose, htaken]
  constructor
  · show Outcome _ _ _ _ _ _
      ((s.trackFallback o).takeFrame.2.openFrame pkt.header o.t0 onGrid).windowStart
    rwa [hopen]
  · exact pending_book_open onGrid .nil
  · rw [book_nextIndex, ((s.trackFallback o).takeFrame.2.openFrame_keeps pkt.header o.t0
      onGrid).2.2.2.1, takeFrame_nextIndex, hindex]
    rfl

/-- The packet joins the partial frame. -/
theorem effect_joined (hcur : s.cur = assemble 0 (first :: rest)) (hpoints : s.cur.points ≠ [])
    (hclose : ((s.trackFallback o).closeDecision pkt.header o).1 = false)
    (houtcome : Outcome s.windowStart s.nextIndex o.frameChanged (s.takenOf pkt o) (first :: rest)
      none s.windowStart) :
    Effect s o.frameChanged (s.takenOf pkt o) (first :: rest) (s.accept pkt o) := by
  have hframe : (s.trackFallback o).cur = s.cur := (s.trackFallback_keeps o).1
  have hindex : (s.trackFallback o).nextIndex = s.nextIndex := (s.trackFallback_keeps o).2.1
  rw [accept_of_not_close (by rwa [hframe]) hclose]
  constructor
  · show Outcome _ _ _ _ _ none (s.trackFallback o).windowStart
    rwa [(s.trackFallback_window o).2.1]
  · exact pending_book (hframe.trans hcur)
  · rw [book_nextIndex, hindex]
    exact (UInt32.add_zero _).symm

/-- The decision about a partial frame, in terms of its group. -/
theorem closeDecision_of_group (pkt : DataPacketView) (o : Observation)
    (hcur : s.cur = assemble 0 (first :: rest)) [Decidable (Joins first (s.takenOf pkt o))] :
    (s.trackFallback o).closeDecision pkt.header o =
      if Joins first (s.takenOf pkt o) then
        if (s.takenOf pkt o).active then
          (decide (s.windowStart + s.window ≤ o.t0), decide (s.windowStart + s.window ≤ o.t0))
        else (o.frameChanged, false)
      else (true, false) := by
  obtain ⟨hwindow, hstart, -⟩ := s.trackFallback_window o
  rw [closeDecision_eq, (s.trackFallback_keeps o).1, hcur, hwindow, hstart]
  refine if_congr ?_ rfl rfl
  constructor <;> rintro ⟨hdata, htime, hback, hfits⟩ <;> exact ⟨hdata, htime, hback, hfits⟩

open Classical in
/-- **Every accepted packet has one of the outcomes.** -/
theorem accept_effect (pkt : DataPacketView) (o : Observation) {group : List Taken}
    (hcur : Pending s.cur group) (hgroup : group ≠ [] → Gathered group) :
    Effect s o.frameChanged (s.takenOf pkt o) group (s.accept pkt o) := by
  cases group with
  | nil => exact effect_first hcur
  | cons first rest =>
    have hassemble : s.cur = assemble 0 (first :: rest) := hcur.frame (List.cons_ne_nil _ _)
    have hpoints : s.cur.points ≠ [] := by
      rw [hassemble]
      exact (hgroup (List.cons_ne_nil _ _)).points_ne_nil 0
    have hdecision := closeDecision_of_group pkt o hassemble
    by_cases hjoins : Joins first (s.takenOf pkt o)
    · rw [if_pos hjoins] at hdecision
      cases hactive : (s.takenOf pkt o).active with
      | true =>
        rw [hactive, if_pos rfl] at hdecision
        by_cases hpast : s.windowStart + s.window ≤ o.t0
        · rw [decide_eq_true hpast] at hdecision
          exact effect_closed hassemble hpoints hdecision (.onGrid hjoins hactive hpast)
        · rw [decide_eq_false hpast] at hdecision
          refine effect_joined hassemble hpoints (congrArg Prod.fst hdecision)
            (.joined hjoins (fun _ => UInt64.not_le.mp hpast) fun hfalse => ?_)
          exact absurd (hactive.symm.trans hfalse) (by decide)
      | false =>
        rw [hactive, if_neg Bool.false_ne_true] at hdecision
        cases hchanged : o.frameChanged with
        | true =>
          rw [hchanged] at hdecision
          rw [← hchanged]
          exact effect_closed hassemble hpoints hdecision
            (.offGrid (.inr ⟨hactive, hchanged⟩))
        | false =>
          rw [← hchanged]
          refine effect_joined hassemble hpoints
            ((congrArg Prod.fst hdecision).trans hchanged)
            (.joined hjoins (fun htrue => ?_) fun _ => hchanged)
          exact absurd (hactive.symm.trans htrue) (by decide)
    · rw [if_neg hjoins] at hdecision
      exact effect_closed hassemble hpoints hdecision (.offGrid (.inl hjoins))

end Accept

variable {s : FrameAssembler} {pkt : DataPacketView} {recvTimeNs : UInt64}

/-- `accept_effect` for `push`. -/
theorem push_effect (haccepts : s.accepts pkt recvTimeNs = true) (hcur : Pending s.cur group)
    (hgroup : group ≠ [] → Gathered group) :
    Effect s (s.havePrev && pkt.header.frameCnt != s.prevFrameCnt) (s.taken pkt recvTimeNs) group
      (s.push pkt recvTimeNs) := by
  rw [push_accepted haccepts]
  obtain ⟨houtcome, hpending, hindex⟩ := accept_effect (s := (s.observe pkt.header recvTimeNs).2)
    pkt (s.observe pkt.header recvTimeNs).1 hcur hgroup
  exact ⟨houtcome, hpending, hindex⟩

theorem points_of_accepts (haccepts : s.accepts pkt recvTimeNs = true) :
    isIgnored pkt.header = false := by
  simp only [accepts, Bool.and_eq_true, Bool.not_eq_true'] at haccepts
  exact haccepts.1

/-! ## Runs and their groups -/

/-- A run with the groups of the frames it returned, the group of the partial frame, and
every packet taken. -/
structure Grouping extends Run where
  frames : List (List Taken) := []
  current : List Taken := []
  taken : List Taken := []

namespace Grouping

def step (g : Grouping) (op : Op) : Grouping :=
  match op with
  | .push pkt recvTimeNs =>
    if g.state.accepts pkt recvTimeNs then
      { toRun := g.toRun.step op
        frames :=
          if (g.state.push pkt recvTimeNs).1.isSome then g.frames ++ [g.current] else g.frames
        current :=
          if (g.state.push pkt recvTimeNs).1.isSome then [g.state.taken pkt recvTimeNs]
          else g.current ++ [g.state.taken pkt recvTimeNs]
        taken := g.taken ++ [g.state.taken pkt recvTimeNs] }
    else { g with toRun := g.toRun.step op }
  | .flush =>
    { g with
      toRun := g.toRun.step op
      frames := if g.state.flush.1.isSome then g.frames ++ [g.current] else g.frames
      current := if g.state.flush.1.isSome then [] else g.current }
  | .discard => { g with toRun := g.toRun.step op, current := [] }
  | .setPolicy _ | .rebase => { g with toRun := g.toRun.step op }

def exec (g : Grouping) (ops : List Op) : Grouping :=
  ops.foldl step g

theorem step_toRun (g : Grouping) (op : Op) : (g.step op).toRun = g.toRun.step op := by
  cases op with
  | push =>
    simp only [step]
    split_ifs <;> rfl
  | _ => rfl

theorem exec_toRun (g : Grouping) (ops : List Op) : (g.exec ops).toRun = g.toRun.exec ops := by
  induction ops generalizing g with
  | nil => rfl
  | cons op ops ih =>
    show ((g.step op).exec ops).toRun = (g.toRun.step op).exec ops
    rw [ih, step_toRun]

section Step

variable {g : Grouping} {pkt : DataPacketView} {recvTimeNs : UInt64}

theorem step_push_state : (g.step (.push pkt recvTimeNs)).state = (g.state.push pkt recvTimeNs).2 :=
  congrArg Run.state (step_toRun g (.push pkt recvTimeNs))

theorem step_push_joined (haccepts : g.state.accepts pkt recvTimeNs = true)
    (hout : (g.state.push pkt recvTimeNs).1 = none) :
    g.step (.push pkt recvTimeNs) =
      { toRun := g.toRun.step (.push pkt recvTimeNs)
        frames := g.frames
        current := g.current ++ [g.state.taken pkt recvTimeNs]
        taken := g.taken ++ [g.state.taken pkt recvTimeNs] } := by
  simp only [step, if_pos haccepts, hout, Option.isSome_none, Bool.false_eq_true, if_false]

theorem step_push_closed {frame : Frame} (haccepts : g.state.accepts pkt recvTimeNs = true)
    (hout : (g.state.push pkt recvTimeNs).1 = some frame) :
    g.step (.push pkt recvTimeNs) =
      { toRun := g.toRun.step (.push pkt recvTimeNs)
        frames := g.frames ++ [g.current]
        current := [g.state.taken pkt recvTimeNs]
        taken := g.taken ++ [g.state.taken pkt recvTimeNs] } := by
  simp only [step, if_pos haccepts, hout, Option.isSome_some, if_true]

theorem step_flush (hcur : g.state.cur.points = [] ↔ g.current = []) (h : g.current ≠ []) :
    g.step .flush =
      { toRun := g.toRun.step .flush
        frames := g.frames ++ [g.current]
        current := []
        taken := g.taken } := by
  have hsome : g.state.flush = (some g.state.takeFrame.1, g.state.takeFrame.2) :=
    if_neg (mt hcur.mp h)
  simp only [step, hsome, Option.isSome_some, if_true]

end Step

end Grouping

/-- A run from a fresh assembler, with its groups. -/
def grouping (policy : FramePolicy) (timestamps : TimestampPolicy) (ops : List Op) : Grouping :=
  Grouping.exec { state := new policy timestamps } ops

/-- The groups are only watched. -/
theorem grouping_toRun (policy : FramePolicy) (timestamps : TimestampPolicy) (ops : List Op) :
    (grouping policy timestamps ops).toRun = run policy timestamps ops :=
  Grouping.exec_toRun _ ops

/-- The frames of the groups, numbered from zero. -/
def assembled (groups : List (List Taken)) : List Frame :=
  groups.mapIdx fun i group => assemble (UInt32.ofNat i) group

theorem assembled_concat (groups : List (List Taken)) (group : List Taken) :
    assembled (groups ++ [group]) =
      assembled groups ++ [assemble (UInt32.ofNat groups.length) group] :=
  List.mapIdx_concat

theorem mem_assembled {groups : List (List Taken)} {f : Frame} (h : f ∈ assembled groups) :
    ∃ group ∈ groups, f = assemble f.index group := by
  obtain ⟨i, hi, rfl⟩ := List.mem_mapIdx.mp h
  refine ⟨groups[i], List.getElem_mem hi, ?_⟩
  cases groups[i] <;> rfl

/-- The frames of a run are the frames of its groups. -/
structure Grouped (g : Grouping) : Prop where
  returned : g.returned = assembled g.frames
  nextIndex : g.state.nextIndex = UInt32.ofNat g.frames.length
  frames : ∀ group ∈ g.frames, Gathered group ∧ group ⊆ g.taken
  pending : Pending g.state.cur g.current
  current : g.current ≠ [] → Gathered g.current
  mem : g.current ⊆ g.taken
  taken : ∀ a ∈ g.taken, isIgnored a.pkt.header = false ∧ 0 < a.window.toNat

namespace Grouped

theorem fresh (policy : FramePolicy) (timestamps : TimestampPolicy) :
    Grouped { state := new policy timestamps } where
  returned := rfl
  nextIndex := rfl
  frames := by
    intro group mem
    exact absurd mem List.not_mem_nil
  pending := .nil
  current := by
    intro hne
    exact absurd rfl hne
  mem := List.nil_subset _
  taken := by
    intro a mem
    exact absurd mem List.not_mem_nil

variable {g : Grouping}

/-- The partial frame has points exactly when it has a group. -/
theorem points_eq_nil_iff (h : Grouped g) : g.state.cur.points = [] ↔ g.current = [] := by
  constructor
  · intro hnil
    by_contra hne
    rw [h.pending.frame hne] at hnil
    exact (h.current hne).points_ne_nil 0 hnil
  · intro hnil
    exact (h.pending.empty hnil).2.1

/-- A step that returns nothing and leaves the partial frame alone. -/
theorem quiet (h : Grouped g) {r : Run} (hreturned : r.returned = g.returned)
    (hcur : r.state.cur = g.state.cur) (hindex : r.state.nextIndex = g.state.nextIndex) :
    Grouped { g with toRun := r } where
  returned := hreturned.trans h.returned
  nextIndex := hindex.trans h.nextIndex
  frames := h.frames
  pending := by
    rw [hcur]
    exact h.pending
  current := h.current
  mem := h.mem
  taken := h.taken

theorem not_accepted (h : Grouped g) {pkt : DataPacketView} {recvTimeNs : UInt64}
    (haccepts : g.state.accepts pkt recvTimeNs = false) :
    Grouped { g with toRun := g.toRun.step (.push pkt recvTimeNs) } := by
  obtain hignored | ⟨hkept, hlate⟩ := not_accepts_cases haccepts
  · refine h.quiet ?_ ?_ ?_
    · rw [returned_push, push_ignored hignored]
      simp
    · simp only [Run.step, push_ignored hignored]
    · simp only [Run.step, push_ignored hignored]
  · refine h.quiet ?_ ?_ ?_
    · rw [returned_push, push_late hkept hlate]
      simp
    · simp only [Run.step, push_late hkept hlate, observe_cur]
    · simp only [Run.step, push_late hkept hlate]
      rfl

/-- An accepted packet joins the current group, or closes it and starts the next. -/
theorem accepted (h : Grouped g) {pkt : DataPacketView} {recvTimeNs : UInt64}
    (haccepts : g.state.accepts pkt recvTimeNs = true) :
    Grouped (g.step (.push pkt recvTimeNs)) := by
  obtain ⟨houtcome, hpending, hindex⟩ := push_effect haccepts h.pending h.current
  have hpoints : isIgnored (g.state.taken pkt recvTimeNs).pkt.header = false :=
    points_of_accepts haccepts
  have htaken : ∀ a ∈ g.taken ++ [g.state.taken pkt recvTimeNs],
      isIgnored a.pkt.header = false ∧ 0 < a.window.toNat := by
    intro a mem
    obtain mem | mem := List.mem_append.mp mem
    · exact h.taken a mem
    · rw [List.mem_singleton.mp mem]
      exact ⟨hpoints, window_pos _⟩
  have hreturned := returned_push g.toRun pkt recvTimeNs
  -- the packet joins the current group, or that group becomes a frame and a new one starts
  obtain ⟨hnone, hjoin⟩ | ⟨hne, hsome⟩ := houtcome.cases
  · rw [Grouping.step_push_joined haccepts hnone]
    simp only [hnone, Option.isSome_none, Bool.false_eq_true, if_false, Option.toList_none,
      List.append_nil] at hpending hindex hreturned
    constructor
    · exact hreturned.trans h.returned
    · exact hindex.trans ((UInt32.add_zero _).trans h.nextIndex)
    · intro group mem
      exact ⟨(h.frames group mem).1, List.subset_append_of_subset_left _ (h.frames group mem).2⟩
    · exact hpending
    · intro _
      obtain hnil | ⟨first, rest, hcurrent, hjoins⟩ := hjoin
      · simp only [hnil, List.nil_append]
        exact .singleton hpoints
      · have hgathered := h.current (by rw [hcurrent]; exact List.cons_ne_nil _ _)
        simp only [hcurrent] at hgathered ⊢
        exact hgathered.concat hpoints hjoins
    · exact List.append_subset.mpr ⟨List.subset_append_of_subset_left _ h.mem,
        List.subset_append_right _ _⟩
    · exact htaken
  · rw [Grouping.step_push_closed haccepts hsome]
    simp only [hsome, Option.isSome_some, if_true, Option.toList_some] at hpending hindex hreturned
    constructor
    · refine hreturned.trans ?_
      rw [assembled_concat, h.returned, h.nextIndex]
    · refine hindex.trans ?_
      rw [h.nextIndex, List.length_append]
      exact (UInt32.ofNat_add ..).symm
    · intro group mem
      obtain mem | mem := List.mem_append.mp mem
      · exact ⟨(h.frames group mem).1, List.subset_append_of_subset_left _ (h.frames group mem).2⟩
      · rw [List.mem_singleton.mp mem]
        exact ⟨h.current hne, List.subset_append_of_subset_left _ h.mem⟩
    · exact hpending
    · intro _
      exact .singleton hpoints
    · exact List.subset_append_right _ _
    · exact htaken

theorem flush (h : Grouped g) : Grouped (g.step .flush) := by
  have hreturned := returned_flush g.toRun
  -- without points there is no frame to flush
  by_cases hnil : g.current = []
  · have hnone : g.state.flush = (none, g.state) := if_pos (h.points_eq_nil_iff.mpr hnil)
    simp only [Grouping.step, hnone, Option.isSome_none, Bool.false_eq_true, if_false]
    refine h.quiet ?_ ?_ ?_
    · rw [hreturned, hnone]
      simp
    · simp only [Run.step, hnone]
    · simp only [Run.step, hnone]
  · rw [Grouping.step_flush h.points_eq_nil_iff hnil]
    have hsome : g.state.flush = (some g.state.takeFrame.1, g.state.takeFrame.2) :=
      if_neg (mt h.points_eq_nil_iff.mp hnil)
    have htaken : g.state.takeFrame.1 = assemble (UInt32.ofNat g.frames.length) g.current := by
      rw [← assemble_index, ← h.pending.frame hnil, ← h.nextIndex]
      rfl
    constructor
    · refine hreturned.trans ?_
      rw [hsome, assembled_concat, h.returned, htaken]
      rfl
    · simp only [Run.step, hsome, takeFrame_nextIndex, h.nextIndex, List.length_append]
      exact (UInt32.ofNat_add ..).symm
    · intro group mem
      obtain mem | mem := List.mem_append.mp mem
      · exact h.frames group mem
      · rw [List.mem_singleton.mp mem]
        exact ⟨h.current hnil, h.mem⟩
    · simp only [Run.step, hsome]
      exact .nil
    · intro hne
      exact absurd rfl hne
    · exact List.nil_subset _
    · exact h.taken

theorem discard (h : Grouped g) : Grouped (g.step .discard) where
  returned := by
    refine Eq.trans ?_ h.returned
    simp [Grouping.step, Run.step, Run.returned, Closed.returned?]
  nextIndex := h.nextIndex
  frames := h.frames
  pending := by
    refine ⟨fun _ => ⟨?_, rfl, rfl, rfl⟩, fun hne => absurd rfl hne⟩
    show g.state.cur.index = 0
    exact h.pending.index_eq
  current := by
    intro hne
    exact absurd rfl hne
  mem := List.nil_subset _
  taken := h.taken

/-- **Every operation keeps the groups.** -/
theorem step (h : Grouped g) (op : Op) : Grouped (g.step op) := by
  cases op with
  | push pkt recvTimeNs =>
    cases haccepts : g.state.accepts pkt recvTimeNs with
    | true => exact h.accepted haccepts
    | false =>
      simp only [Grouping.step, haccepts, Bool.false_eq_true, if_false]
      exact h.not_accepted haccepts
  | flush => exact h.flush
  | setPolicy => exact h.quiet rfl rfl rfl
  | rebase => exact h.quiet rfl rfl rfl
  | discard => exact h.discard

theorem exec (h : Grouped g) (ops : List Op) : Grouped (g.exec ops) := by
  induction ops generalizing g with
  | nil => exact h
  | cons op ops ih => exact ih (h.step op)

end Grouped

/-- **The frames a run returns are the frames of its groups.** -/
theorem grouped_run (policy : FramePolicy) (timestamps : TimestampPolicy) (ops : List Op) :
    Grouped (grouping policy timestamps ops) :=
  (Grouped.fresh policy timestamps).exec ops

/-! ## Groups by key -/

section Keys

open Runs

variable {κ : Type*} [DecidableEq κ] {key : Taken → κ} {g : Grouping} {last : Taken}

/-- The packets taken so far are grouped in runs of equal keys; `last` came last. -/
structure GroupedBy (key : Taken → κ) (last : Taken) (g : Grouping) : Prop where
  runs : runs key g.taken = g.frames ++ [g.current]
  last : g.current.getLast? = some last

theorem GroupedBy.ne_nil (h : GroupedBy key last g) : g.current ≠ [] := by
  intro hnil
  have hlast := h.last
  rw [hnil] at hlast
  exact Option.some_ne_none last hlast.symm

theorem GroupedBy.key_eq (h : GroupedBy key last g) {a : Taken} (ha : a ∈ g.current) :
    key a = key last := by
  have hmem : g.current ∈ Runs.runs key g.taken := by
    rw [h.runs]
    simp
  exact key_eq_of_mem_runs hmem ha (List.mem_of_getLast? h.last)

/-- A packet that closes the partial frame exactly when its key is new keeps the groups
runs of equal keys. -/
theorem GroupedBy.push {pkt : DataPacketView} {recvTimeNs : UInt64} (h : GroupedBy key last g)
    (haccepts : g.state.accepts pkt recvTimeNs = true)
    (hclose : (g.state.push pkt recvTimeNs).1.isSome = true ↔
      key last ≠ key (g.state.taken pkt recvTimeNs)) :
    GroupedBy key (g.state.taken pkt recvTimeNs) (g.step (.push pkt recvTimeNs)) := by
  cases hout : (g.state.push pkt recvTimeNs).1 with
  | none =>
    have hsame : key last = key (g.state.taken pkt recvTimeNs) := by
      by_contra hne
      have hsome := hclose.mpr hne
      rw [hout] at hsome
      exact absurd hsome (by decide)
    rw [Grouping.step_push_joined haccepts hout]
    exact ⟨runs_concat_same h.runs h.last hsame, by simp⟩
  | some =>
    have hother := hclose.mp (by rw [hout]; rfl)
    rw [Grouping.step_push_closed haccepts hout]
    exact ⟨runs_concat_other h.runs h.last hother, rfl⟩

/-- After a `flush` every run of equal keys has been returned. -/
theorem GroupedBy.flush (h : GroupedBy key last g) (hg : Grouped g) :
    (g.step .flush).returned = assembled (Runs.runs key g.taken) := by
  rw [hg.flush.returned, Grouping.step_flush hg.points_eq_nil_iff h.ne_nil, h.runs]

end Keys

/-! ## Mapped times and bookkeeping -/

/-- Received packets with their mapped times. -/
def stamped (m : TimeMapper) : List (DataPacketView × UInt64) → List (DataPacketView × UInt64)
  | [] => []
  | p :: received =>
    (p.1, (m.map p.1.header p.2).1) :: stamped (m.map p.1.header p.2).2 received

/-- A packet as taken, with its mapped time only. -/
def Taken.stamp (a : Taken) : DataPacketView × UInt64 :=
  (a.pkt, a.t0)

/-- A packet that does not change `frame_cnt` is never late. -/
theorem accepts_of_same_frame (hpoints : isIgnored pkt.header = false)
    (hsame : (s.havePrev && pkt.header.frameCnt != s.prevFrameCnt) = false) :
    s.accepts pkt recvTimeNs = true := by
  have hchanged : (s.observe pkt.header recvTimeNs).1.frameChanged = false := hsame
  rw [accepts, hpoints, isLate, hchanged, Bool.and_false, Bool.false_and]
  rfl

/-- A property of the packets to come, of the packet taken last and of the run, that every
next packet of a stream keeps: the whole stream is accepted, at its mapped times, and the
property holds behind it. -/
theorem exec_stream {P : List (DataPacketView × UInt64) → Taken → Grouping → Prop}
    (hstep : ∀ (rest : List (DataPacketView × UInt64)) (last : Taken) (g : Grouping)
      (p : DataPacketView × UInt64), P ((g.state.taken p.1 p.2).stamp :: rest) last g →
        g.state.accepts p.1 p.2 = true ∧ P rest (g.state.taken p.1 p.2) (g.step (.push p.1 p.2)))
    (received : List (DataPacketView × UInt64)) {last : Taken} {g : Grouping}
    (h : P (stamped g.state.time received) last g) :
    (∃ last', P [] last' (g.exec (pushAll received))) ∧
      (g.exec (pushAll received)).taken.map Taken.stamp =
        g.taken.map Taken.stamp ++ stamped g.state.time received := by
  induction received generalizing last g with
  | nil => exact ⟨⟨last, h⟩, (List.append_nil _).symm⟩
  | cons p received ih =>
    obtain ⟨haccepts, hkeep⟩ := hstep _ last g p h
    have htime : (g.step (.push p.1 p.2)).state.time = (g.state.time.map p.1.header p.2).2 := by
      rw [Grouping.step_push_state, push_clock (points_of_accepts haccepts)]
    have htaken : (g.step (.push p.1 p.2)).taken = g.taken ++ [g.state.taken p.1 p.2] := by
      simp only [Grouping.step, if_pos haccepts]
    have hih := ih (g := g.step (.push p.1 p.2)) (by rw [htime]; exact hkeep)
    rw [htime, htaken, List.map_append, List.append_assoc] at hih
    exact hih

/-! ## The first packet -/

section First

variable (policy : FramePolicy) (timestamps : TimestampPolicy) {p : DataPacketView × UInt64}

/-- The first packet starts a frame and a window. -/
theorem first_push (hpoints : isIgnored p.1.header = false) :
    (new policy timestamps).accepts p.1 p.2 = true ∧
      ((new policy timestamps).push p.1 p.2).2.windowStart =
        ((new policy timestamps).taken p.1 p.2).t0 ∧
      Grouping.step { state := new policy timestamps } (.push p.1 p.2) =
        { toRun := Run.step { state := new policy timestamps } (.push p.1 p.2)
          frames := []
          current := [(new policy timestamps).taken p.1 p.2]
          taken := [(new policy timestamps).taken p.1 p.2] } := by
  have haccepts : (new policy timestamps).accepts p.1 p.2 = true :=
    accepts_of_same_frame hpoints rfl
  obtain ⟨houtcome, -, -⟩ := push_effect haccepts
    (.nil : Pending (new policy timestamps).cur []) (fun hne => absurd rfl hne)
  have hfirst : ((new policy timestamps).push p.1 p.2).1 = none ∧
      ((new policy timestamps).push p.1 p.2).2.windowStart =
        ((new policy timestamps).taken p.1 p.2).t0 := by
    generalize ((new policy timestamps).push p.1 p.2).1 = out at houtcome ⊢
    generalize ((new policy timestamps).push p.1 p.2).2.windowStart = start at houtcome ⊢
    cases houtcome with
    | first => exact ⟨rfl, rfl⟩
  exact ⟨haccepts, hfirst.2, Grouping.step_push_joined haccepts hfirst.1⟩

/-- It is a group by itself, whatever the key. -/
theorem first_groupedBy {κ : Type*} [DecidableEq κ] (key : Taken → κ)
    (hpoints : isIgnored p.1.header = false) :
    GroupedBy key ((new policy timestamps).taken p.1 p.2)
      (Grouping.step { state := new policy timestamps } (.push p.1 p.2)) := by
  rw [(first_push policy timestamps hpoints).2.2]
  exact ⟨rfl, rfl⟩

/-- What holds from the first packet of a stream on and is kept by every next packet holds
behind the stream. -/
theorem grouping_stream {P : List (DataPacketView × UInt64) → Taken → Grouping → Prop}
    {received : List (DataPacketView × UInt64)}
    (hstep : ∀ (rest : List (DataPacketView × UInt64)) (last : Taken) (g : Grouping)
      (p : DataPacketView × UInt64), P ((g.state.taken p.1 p.2).stamp :: rest) last g →
        g.state.accepts p.1 p.2 = true ∧ P rest (g.state.taken p.1 p.2) (g.step (.push p.1 p.2)))
    (hpoints : isIgnored p.1.header = false)
    (hfirst : P (stamped (TimeMapper.map { policy := timestamps } p.1.header p.2).2 received)
      ((new policy timestamps).taken p.1 p.2)
      (Grouping.step { state := new policy timestamps } (.push p.1 p.2))) :
    (∃ last, P [] last (grouping policy timestamps (pushAll (p :: received)))) ∧
      (grouping policy timestamps (pushAll (p :: received))).taken.map Taken.stamp =
        stamped { policy := timestamps } (p :: received) := by
  obtain ⟨haccepts, -, hstart⟩ := first_push policy timestamps hpoints
  have htime : (Grouping.step { state := new policy timestamps } (.push p.1 p.2)).state.time =
      (TimeMapper.map { policy := timestamps } p.1.header p.2).2 := by
    rw [Grouping.step_push_state, push_clock (points_of_accepts haccepts)]
    rfl
  obtain ⟨hlast, htaken⟩ := exec_stream hstep received (by rw [htime]; exact hfirst)
  rw [htime, congrArg Grouping.taken hstart] at htaken
  exact ⟨hlast, htaken⟩

end First

end LivoxMid360.FrameAssembler
