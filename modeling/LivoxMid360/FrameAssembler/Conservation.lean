import LivoxMid360.FrameAssembler
import Mathlib.Algebra.BigOperators.Group.List.Basic

/-!
# The frame assembler conserves its input

A run is any finite sequence of `push`, `flush`, `set_policy`, `rebase` and
`discard` from a fresh assembler.  `Run` keeps what such a sequence leaves behind:
the frames that left the assembler, returned or discarded, and the packets that
were accepted with the gap observed at each.

The invariant `Conserved` says that the accepted packets, in arrival order, are cut
into consecutive groups, one for each frame that left and one for the partial
frame, and that a frame holds exactly its group (`Holds`): the converted samples in
order, the number of packets and the number of dropped packets.  `accept_cases` is
the only fact about `push` it rests on; every step of a run keeps it
(`Conserved.step`), so every run has it (`conserved_run`).

`assembler_conserves` reads the four conservation laws off the invariant.  The two
counters of a `Frame` are 32 bits wide while those of the assembler are 64 bits
wide, so they hold the totals of their group modulo `2 ^ 32`;
`droppedPackets_wraps` is a run in which the difference shows.
-/

namespace LivoxMid360.FrameAssembler

/-! ## Runs -/

inductive Op where
  | push (pkt : DataPacketView) (recvTimeNs : UInt64)
  | flush
  | setPolicy (policy : FramePolicy)
  | rebase
  | discard

/-- A frame that left the assembler. -/
inductive Closed where
  | returned (frame : Frame)
  | discarded (frame : Frame)

namespace Closed

def frame : Closed → Frame
  | returned f => f
  | discarded f => f

def returned? : Closed → Option Frame
  | returned f => some f
  | discarded _ => none

end Closed

/-- An accepted packet and the packets missing before it. -/
structure Accepted where
  pkt : DataPacketView
  dropped : UInt32

/-- The images of the samples of a packet. -/
def sampleImages (pkt : DataPacketView) : List Point :=
  (List.range pkt.header.dotNum.toNat).map (convertPoint pkt)

def Accepted.images (a : Accepted) : List Point :=
  sampleImages a.pkt

structure Run where
  state : FrameAssembler
  closed : List Closed := []
  accepted : List Accepted := []

namespace Run

/-- The frames returned to the caller, in order. -/
def returned (r : Run) : List Frame :=
  r.closed.filterMap Closed.returned?

def step (r : Run) : Op → Run
  | .push pkt recvTimeNs =>
    { state := (r.state.push pkt recvTimeNs).2
      closed := r.closed ++ (r.state.push pkt recvTimeNs).1.toList.map .returned
      accepted := r.accepted ++
        if r.state.accepts pkt recvTimeNs then
          [⟨pkt, (r.state.observe pkt.header recvTimeNs).1.drop.dropped⟩]
        else [] }
  | .flush =>
    { r with
      state := r.state.flush.2
      closed := r.closed ++ r.state.flush.1.toList.map .returned }
  | .setPolicy policy => { r with state := r.state.setPolicy policy }
  | .rebase => { r with state := r.state.rebase }
  | .discard =>
    { r with
      state := r.state.discard
      closed := r.closed ++ [.discarded r.state.cur] }

def exec (r : Run) (ops : List Op) : Run :=
  ops.foldl step r

end Run

/-- A run from a fresh assembler. -/
def run (policy : FramePolicy) (timestamps : TimestampPolicy) (ops : List Op) : Run :=
  Run.exec { state := new policy timestamps } ops

theorem run_concat (policy : FramePolicy) (timestamps : TimestampPolicy) (ops : List Op) (op : Op) :
    run policy timestamps (ops ++ [op]) = (run policy timestamps ops).step op := by
  rw [run, Run.exec, List.foldl_append]
  rfl

theorem returned_push (r : Run) (pkt : DataPacketView) (recvTimeNs : UInt64) :
    (r.step (.push pkt recvTimeNs)).returned =
      r.returned ++ (r.state.push pkt recvTimeNs).1.toList := by
  simp [Run.returned, Run.step, List.filterMap_map, Function.comp_def, Closed.returned?]

theorem returned_flush (r : Run) :
    (r.step .flush).returned = r.returned ++ r.state.flush.1.toList := by
  simp [Run.returned, Run.step, List.filterMap_map, Function.comp_def, Closed.returned?]

/-- Pushing packets, each with its receive time. -/
def pushAll (received : List (DataPacketView × UInt64)) : List Op :=
  received.map fun p => .push p.1 p.2

/-! ## What a frame holds -/

/-- A point without its offset: the part `convert_point` writes. -/
def image (p : Point) : Point :=
  { p with offsetNs := 0 }

theorem convertPoint_offsetNs (pkt : DataPacketView) (i : ℕ) :
    (convertPoint pkt i).offsetNs = 0 := by
  unfold convertPoint
  cases pkt.header.dataType <;> rfl

@[simp] theorem image_framePoint (pkt : DataPacketView) (t0 base : UInt64) (i : ℕ) :
    image (framePoint pkt t0 base i) = convertPoint pkt i := by
  have hoffset := convertPoint_offsetNs pkt i
  unfold image framePoint
  dsimp only
  rw [← hoffset]

/-- The dropped packets of a group, exactly. -/
def droppedTotal (group : List Accepted) : ℕ :=
  (group.map fun a => a.dropped.toNat).sum

theorem droppedTotal_flatten (groups : List (List Accepted)) :
    droppedTotal groups.flatten = (groups.map droppedTotal).sum := by
  induction groups with
  | nil => rfl
  | cons group groups ih =>
    rw [List.map_cons, List.sum_cons, ← ih, List.flatten_cons]
    simp [droppedTotal]

/-- A frame made of the packets of a group.  The counters are 32 bits wide. -/
structure Holds (f : Frame) (group : List Accepted) : Prop where
  points : f.points.map image = group.flatMap Accepted.images
  packets : f.packets = UInt32.ofNat group.length
  droppedPackets : f.droppedPackets = UInt32.ofNat (droppedTotal group)

theorem Holds.empty : Holds {} [] :=
  ⟨rfl, rfl, rfl⟩

/-- `after` is `before` with the packet appended. -/
structure Merged (before : Frame) (pkt : DataPacketView) (dropped : UInt32) (after : Frame) :
    Prop where
  points : ∃ t0 base, after.points = before.points ++
    (List.range pkt.header.dotNum.toNat).map (framePoint pkt t0 base)
  packets : after.packets = before.packets + 1
  droppedPackets : after.droppedPackets = before.droppedPackets + dropped

theorem Holds.merged {before after : Frame} {group : List Accepted} {a : Accepted}
    (h : Holds before group) (m : Merged before a.pkt a.dropped after) :
    Holds after (group ++ [a]) where
  points := by
    obtain ⟨t0, base, hpoints⟩ := m.points
    rw [hpoints, List.map_append, h.points]
    simp [Accepted.images, sampleImages, Function.comp_def]
  packets := by
    rw [m.packets, h.packets, List.length_append]
    exact (UInt32.ofNat_add ..).symm
  droppedPackets := by
    have hsum : droppedTotal (group ++ [a]) = droppedTotal group + a.dropped.toNat := by
      simp [droppedTotal]
    rw [m.droppedPackets, h.droppedPackets, hsum, UInt32.ofNat_add, UInt32.ofNat_toNat]

theorem Merged.points_length {before after : Frame} {pkt : DataPacketView} {dropped : UInt32}
    (m : Merged before pkt dropped after) :
    after.points.length = before.points.length + pkt.header.dotNum.toNat := by
  obtain ⟨t0, base, hpoints⟩ := m.points
  rw [hpoints]
  simp

/-! ## The step -/

/-- Opening and booking on top of an assembler: its partial frame gains the packet. -/
theorem merged_book (s : FrameAssembler) (pkt : DataPacketView) (o : Observation)
    (onGrid : Bool) :
    Merged s.cur pkt o.drop.dropped
      ((s.openFrame pkt.header o.t0 onGrid).book pkt o).cur := by
  obtain ⟨hpoints, hpackets, hdropped, -, -⟩ := s.openFrame_keeps pkt.header o.t0 onGrid
  refine ⟨⟨o.t0, (s.openFrame pkt.header o.t0 onGrid).cur.baseTimeNs, ?_⟩, ?_, ?_⟩
  · rw [← hpoints]
    rfl
  · rw [← hpackets]
    rfl
  · rw [← hdropped]
    rfl

/-- **An accepted packet joins the partial frame, or the partial frame is taken and
the packet starts the next one.** -/
theorem accept_cases (s : FrameAssembler) (pkt : DataPacketView) (o : Observation) :
    (s.accept pkt o).2.counters.packets = s.counters.packets + 1 ∧
    (s.accept pkt o).2.counters.points = s.counters.points + pkt.header.dotNum.toNat ∧
    (s.accept pkt o).2.counters.droppedPackets = s.counters.droppedPackets ∧
    (((s.accept pkt o).1 = none ∧ Merged s.cur pkt o.drop.dropped (s.accept pkt o).2.cur ∧
        (s.accept pkt o).2.nextIndex = s.nextIndex ∧
        (s.accept pkt o).2.counters.frames = s.counters.frames) ∨
      ((s.accept pkt o).1 = some s.takeFrame.1 ∧
        Merged {} pkt o.drop.dropped (s.accept pkt o).2.cur ∧
        (s.accept pkt o).2.nextIndex = s.nextIndex + 1 ∧
        (s.accept pkt o).2.counters.frames = s.counters.frames + 1)) := by
  obtain ⟨hcur, hindex, hpackets, hpoints, hframes, hdropped⟩ := s.trackFallback_keeps o
  have hout : (s.accept pkt o).1 = ((s.trackFallback o).closeFrame pkt.header o).1 := rfl
  have hstate : (s.accept pkt o).2 = (((s.trackFallback o).closeFrame pkt.header o).2.2.openFrame
      pkt.header o.t0 ((s.trackFallback o).closeFrame pkt.header o).2.1).book pkt o := rfl
  have hopen := fun s' : FrameAssembler => s'.openFrame_keeps pkt.header o.t0
    ((s.trackFallback o).closeFrame pkt.header o).2.1
  obtain ⟨hnone, hsame⟩ | ⟨-, hsome, htaken⟩ := (s.trackFallback o).closeFrame_cases pkt.header o
  · obtain ⟨-, -, -, hnext, hcount⟩ := hopen (s.trackFallback o)
    rw [hout, hstate, hsame, hnone, book_counters, book_nextIndex, hcount, hnext]
    refine ⟨by rw [hpackets], by rw [hpoints], hdropped, .inl ⟨rfl, ?_, hindex, hframes⟩⟩
    rw [← hcur]
    exact merged_book ..
  · obtain ⟨-, -, -, hnext, hcount⟩ := hopen (s.trackFallback o).takeFrame.2
    rw [hout, hstate, htaken, hsome, book_counters, book_nextIndex, hcount, hnext,
      takeFrame_counters, takeFrame_nextIndex]
    refine ⟨by rw [hpackets], by rw [hpoints], hdropped,
      .inr ⟨?_, merged_book (s.trackFallback o).takeFrame.2 pkt o _, by rw [hindex],
        by rw [hframes]⟩⟩
    simp only [takeFrame, hcur, hindex]

/-- A packet with samples leaves a partial frame behind, if there is one already or the
packet is the first. -/
theorem push_points_ne_nil {s : FrameAssembler} {pkt : DataPacketView}
    (hsamples : isIgnored pkt.header = false)
    (hs : s.drops.have_ = false ∨ s.cur.points ≠ []) (recvTimeNs : UInt64) :
    (s.push pkt recvTimeNs).2.cur.points ≠ [] := by
  cases haccepts : s.accepts pkt recvTimeNs with
  | true =>
    have hdots : pkt.header.dotNum.toNat ≠ 0 := by
      intro hzero
      simp only [isIgnored, Bool.or_eq_false_iff, decide_eq_false_iff_not] at hsamples
      exact hsamples.2 (UInt16.toNat_inj.mp hzero)
    rw [push_accepted haccepts]
    intro hnil
    obtain ⟨-, -, -, ⟨-, hmerged, -⟩ | ⟨-, hmerged, -⟩⟩ := accept_cases
      (s.observe pkt.header recvTimeNs).2 pkt (s.observe pkt.header recvTimeNs).1
    all_goals
      have hlength := hmerged.points_length
      rw [hnil, List.length_nil] at hlength
      omega
  | false =>
    obtain ⟨-, hlate⟩ := (not_accepts_cases haccepts).resolve_left (by rw [hsamples]; decide)
    rw [push_late hsamples hlate, observe_cur]
    refine hs.resolve_left fun hfirst => ?_
    -- The first packet is never out of order.
    simp only [isLate, Bool.and_eq_true, observe_reordered] at hlate
    obtain ⟨hfalse, -, -⟩ | ⟨-, -, hhave, -⟩ := s.drops.observe_cases pkt.header.udpCnt
      (s.havePrev && pkt.header.frameCnt != s.prevFrameCnt)
    · rw [hfalse] at hlate
      exact absurd hlate.1.1 (by decide)
    · rw [hfirst] at hhave
      exact absurd hhave (by decide)

/-! ## The invariant -/

/-- The accepted packets are cut into consecutive groups, one for each frame that
left the assembler and one for the partial frame; the counters count them. -/
structure Conserved (r : Run) : Prop where
  groups : ∃ left current, List.Forall₂ (fun c g => Holds c.frame g) r.closed left ∧
    Holds r.state.cur current ∧ left.flatten ++ current = r.accepted
  packets : r.state.counters.packets = r.accepted.length
  droppedPackets : r.state.counters.droppedPackets = droppedTotal r.accepted
  points : r.state.counters.points =
    (r.returned.map fun f => f.points.length).sum + r.state.cur.points.length
  indices : r.returned.map Frame.index = (List.range r.returned.length).map UInt32.ofNat
  nextIndex : r.state.nextIndex = UInt32.ofNat r.returned.length
  frames : r.state.counters.frames = r.returned.length

namespace Conserved

theorem fresh (policy : FramePolicy) (timestamps : TimestampPolicy) :
    Conserved { state := new policy timestamps } where
  groups := ⟨[], [], .nil, .empty, rfl⟩
  packets := rfl
  droppedPackets := rfl
  points := rfl
  indices := rfl
  nextIndex := rfl
  frames := rfl

variable {r : Run}

/-- A step that leaves the frame and the traffic counters alone. -/
theorem quiet (h : Conserved r) {state : FrameAssembler} (hcur : state.cur = r.state.cur)
    (hindex : state.nextIndex = r.state.nextIndex)
    (hpackets : state.counters.packets = r.state.counters.packets)
    (hpoints : state.counters.points = r.state.counters.points)
    (hframes : state.counters.frames = r.state.counters.frames)
    (hdropped : state.counters.droppedPackets = r.state.counters.droppedPackets) :
    Conserved { r with state } where
  groups := by
    simp only [hcur]
    exact h.groups
  packets := hpackets.trans h.packets
  droppedPackets := hdropped.trans h.droppedPackets
  points := by
    simp only [hcur]
    exact hpoints.trans h.points
  indices := h.indices
  nextIndex := hindex.trans h.nextIndex
  frames := hframes.trans h.frames

/-- The partial frame is taken and returned. -/
theorem taken (h : Conserved r) :
    Conserved { r with
      state := r.state.takeFrame.2
      closed := r.closed ++ [.returned r.state.takeFrame.1] } := by
  have hreturned : Run.returned { r with
      state := r.state.takeFrame.2
      closed := r.closed ++ [.returned r.state.takeFrame.1] } =
        r.returned ++ [r.state.takeFrame.1] := by
    simp [Run.returned, Closed.returned?]
  obtain ⟨left, current, hleft, hcurrent, hflat⟩ := h.groups
  constructor
  · refine ⟨left ++ [current], [], ?_, .empty, ?_⟩
    · exact List.rel_append hleft (.cons ⟨hcurrent.points, hcurrent.packets,
        hcurrent.droppedPackets⟩ .nil)
    · simpa using hflat
  · exact h.packets
  · exact h.droppedPackets
  · rw [hreturned]
    simpa [takeFrame] using h.points
  · rw [hreturned, List.map_append, h.indices, List.length_append]
    simp [takeFrame, h.nextIndex, List.range_succ]
  · rw [hreturned, takeFrame_nextIndex, h.nextIndex, List.length_append]
    exact (UInt32.ofNat_add ..).symm
  · rw [hreturned, List.length_append, ← h.frames]
    rfl

/-- The partial frame is discarded. -/
theorem discarded (h : Conserved r) :
    Conserved { r with
      state := r.state.discard
      closed := r.closed ++ [.discarded r.state.cur] } := by
  have hreturned : Run.returned { r with
      state := r.state.discard
      closed := r.closed ++ [.discarded r.state.cur] } = r.returned := by
    simp [Run.returned, Closed.returned?]
  obtain ⟨left, current, hleft, hcurrent, hflat⟩ := h.groups
  constructor
  · refine ⟨left ++ [current], [], ?_, ⟨rfl, rfl, rfl⟩, ?_⟩
    · exact List.rel_append hleft (.cons hcurrent .nil)
    · simpa using hflat
  · exact h.packets
  · exact h.droppedPackets
  · rw [hreturned]
    simp [discard, h.points]
  · rw [hreturned]
    exact h.indices
  · rw [hreturned]
    exact h.nextIndex
  · rw [hreturned]
    exact h.frames

/-- A packet is merged into the partial frame. -/
theorem merged (h : Conserved r) {state : FrameAssembler} {a : Accepted}
    (hcur : Merged r.state.cur a.pkt a.dropped state.cur)
    (hindex : state.nextIndex = r.state.nextIndex)
    (hpackets : state.counters.packets = r.state.counters.packets + 1)
    (hpoints : state.counters.points = r.state.counters.points + a.pkt.header.dotNum.toNat)
    (hframes : state.counters.frames = r.state.counters.frames)
    (hdropped : state.counters.droppedPackets =
      r.state.counters.droppedPackets + a.dropped.toNat) :
    Conserved { r with state, accepted := r.accepted ++ [a] } := by
  obtain ⟨left, current, hleft, hcurrent, hflat⟩ := h.groups
  constructor
  · refine ⟨left, current ++ [a], hleft, hcurrent.merged hcur, ?_⟩
    rw [← List.append_assoc, hflat]
  · rw [hpackets, h.packets, List.length_append]
    rfl
  · rw [hdropped, h.droppedPackets]
    simp [droppedTotal]
  · have hlength := hcur.points_length
    simp only [hpoints, hlength, h.points]
    exact Nat.add_assoc ..
  · exact h.indices
  · exact hindex.trans h.nextIndex
  · exact hframes.trans h.frames

/-- A late packet carries no gap. -/
theorem dropped_of_late {s : FrameAssembler} {h : DataPacketHeader} {recvTimeNs : UInt64}
    (late : (s.observe h recvTimeNs).2.isLate (s.observe h recvTimeNs).1 = true) :
    (s.observe h recvTimeNs).1.drop.dropped = 0 := by
  simp only [isLate, Bool.and_eq_true] at late
  obtain ⟨⟨hreordered, -⟩, -⟩ := late
  unfold observe at *
  dsimp only at *
  split_ifs at hreordered ⊢
  · rfl
  · exact DropCounter.observe_dropped_of_reordered hreordered

theorem push (h : Conserved r) (pkt : DataPacketView) (recvTimeNs : UInt64) :
    Conserved (r.step (.push pkt recvTimeNs)) := by
  simp only [Run.step]
  cases haccepts : r.state.accepts pkt recvTimeNs with
  | false =>
    rw [if_neg Bool.false_ne_true, List.append_nil]
    obtain hignored | ⟨hkept, hlate⟩ := not_accepts_cases haccepts
    · rw [push_ignored hignored, Option.toList_none, List.map_nil, List.append_nil]
      exact h
    · rw [push_late hkept hlate, Option.toList_none, List.map_nil, List.append_nil]
      refine h.quiet rfl rfl rfl rfl rfl ?_
      rw [observe_droppedPackets, dropped_of_late hlate]
      rfl
  | true =>
    rw [if_pos rfl, push_accepted haccepts]
    obtain ⟨hpackets, hpoints, hdropped, hcases⟩ :=
      accept_cases (r.state.observe pkt.header recvTimeNs).2 pkt
        (r.state.observe pkt.header recvTimeNs).1
    obtain ⟨hout, hmerged, hindex, hframes⟩ | ⟨hout, hmerged, hindex, hframes⟩ := hcases
    · rw [hout, Option.toList_none, List.map_nil, List.append_nil]
      exact h.merged hmerged hindex hpackets hpoints hframes hdropped
    · rw [hout, Option.toList_some, List.map_singleton]
      exact h.taken.merged hmerged hindex hpackets hpoints hframes hdropped

/-- **Every operation keeps the invariant.** -/
theorem step (h : Conserved r) (op : Op) : Conserved (r.step op) := by
  cases op with
  | push pkt recvTimeNs => exact h.push pkt recvTimeNs
  | flush =>
    simp only [Run.step, flush]
    split_ifs
    · rw [Option.toList_none, List.map_nil, List.append_nil]
      exact h
    · exact h.taken
  | setPolicy | rebase => exact h.quiet rfl rfl rfl rfl rfl rfl
  | discard => exact h.discarded

theorem exec (h : Conserved r) (ops : List Op) : Conserved (r.exec ops) := by
  induction ops generalizing r with
  | nil => exact h
  | cons op ops ih => exact ih (h.step op)

end Conserved

theorem conserved_run (policy : FramePolicy) (timestamps : TimestampPolicy) (ops : List Op) :
    Conserved (run policy timestamps ops) :=
  (Conserved.fresh policy timestamps).exec ops

/-! ## The conservation laws -/

/-- Without a `discard`, every frame that left was returned. -/
theorem closed_frames_of_no_discard {r : Run} (h : r.closed.map Closed.frame = r.returned)
    {ops : List Op} (hops : Op.discard ∉ ops) :
    (r.exec ops).closed.map Closed.frame = (r.exec ops).returned := by
  induction ops generalizing r with
  | nil => exact h
  | cons op ops ih =>
    simp only [List.mem_cons, not_or] at hops
    refine ih ?_ hops.2
    have hreturned : ∀ frames : List Frame,
        (r.closed ++ frames.map Closed.returned).map Closed.frame =
          (r.closed ++ frames.map Closed.returned).filterMap Closed.returned? := by
      intro frames
      have hframe : Closed.frame ∘ Closed.returned = id := rfl
      have hsome : Closed.returned? ∘ Closed.returned = some := rfl
      rw [List.map_append, h, List.filterMap_append, List.map_map, List.filterMap_map, hframe,
        hsome, List.map_id, List.filterMap_some, Run.returned]
    cases op with
    | push => exact hreturned _
    | flush => exact hreturned _
    | setPolicy => exact h
    | rebase => exact h
    | discard => exact absurd rfl hops.1

/-- Frames that hold their groups hold, together, all the images in order. -/
theorem flatMap_image_eq {frames : List Frame} {groups : List (List Accepted)}
    (h : List.Forall₂ Holds frames groups) :
    (frames.flatMap fun f => f.points.map image) = groups.flatten.flatMap Accepted.images := by
  induction h with
  | nil => rfl
  | cons hhead htail ih =>
    rw [List.flatMap_cons, List.flatten_cons, List.flatMap_append, hhead.points, ih]

/-- Without a `discard`, the points of the returned frames and of the partial frame
are the images of the samples of the accepted packets, in arrival order. -/
theorem points_eq_images (policy : FramePolicy) (timestamps : TimestampPolicy) {ops : List Op}
    (hops : Op.discard ∉ ops) :
    (((run policy timestamps ops).returned ++
        [(run policy timestamps ops).state.cur]).flatMap Frame.points).map image =
      (run policy timestamps ops).accepted.flatMap Accepted.images := by
  obtain ⟨left, current, hleft, hcurrent, hflat⟩ := (conserved_run policy timestamps ops).groups
  have hreturned : (run policy timestamps ops).closed.map Closed.frame =
      (run policy timestamps ops).returned := closed_frames_of_no_discard rfl hops
  have hholds : List.Forall₂ Holds ((run policy timestamps ops).closed.map Closed.frame ++
      [(run policy timestamps ops).state.cur]) (left ++ [current]) :=
    List.rel_append (List.forall₂_map_left_iff.mpr hleft) (.cons hcurrent .nil)
  rw [← hreturned, List.map_flatMap, flatMap_image_eq hholds, List.flatten_append,
    List.flatten_singleton, hflat]

/-- Below `2 ^ 32` the counters of the frames are the totals of their groups. -/
theorem sum_toNat_eq {frames : List Frame} {groups : List (List Accepted)}
    {field : Frame → UInt32} {total : List Accepted → ℕ}
    (h : List.Forall₂ (fun f g => field f = UInt32.ofNat (total g)) frames groups)
    (hlt : ∀ g ∈ groups, total g < 2 ^ 32) :
    (frames.map fun f => (field f).toNat).sum = (groups.map total).sum := by
  induction h with
  | nil => rfl
  | @cons f g frames groups hhead htail ih =>
    have hfits : (UInt32.ofNat (total g)).toNat = total g :=
      UInt32.toNat_ofNat_of_lt' (hlt g List.mem_cons_self)
    rw [List.map_cons, List.sum_cons, List.map_cons, List.sum_cons, hhead, hfits,
      ih fun g' mem => hlt g' (List.mem_cons_of_mem g mem)]

/-- **The frame assembler conserves its input.**  For every run that returns fewer
than `2 ^ 32` frames:

* the returned frames are numbered `0, 1, 2, …` and counted;
* without a `discard`, the points of the returned frames and of the partial frame
  are the images of the samples of the accepted packets, in arrival order;
* the point counter is what was returned and what is pending;
* the packet and drop counters are the totals over the returned, discarded and
  partial frames.  A frame keeps these totals modulo `2 ^ 32`, so they are the sums
  of `Frame::packets` and `Frame::dropped_packets` when no single frame reaches
  `2 ^ 32`. -/
theorem assembler_conserves (policy : FramePolicy) (timestamps : TimestampPolicy)
    (ops : List Op) (hfew : (run policy timestamps ops).returned.length < 2 ^ 32) :
    let r := run policy timestamps ops
    let frames := r.closed.map Closed.frame ++ [r.state.cur]
    (r.returned.map fun f => f.index.toNat) = List.range r.returned.length ∧
    r.returned.length = r.state.counters.frames ∧
    (Op.discard ∉ ops → ((r.returned ++ [r.state.cur]).flatMap Frame.points).map image =
      r.accepted.flatMap Accepted.images) ∧
    r.state.counters.points =
      (r.returned.map fun f => f.points.length).sum + r.state.cur.points.length ∧
    ∃ groups : List (List Accepted),
      groups.flatten = r.accepted ∧ List.Forall₂ Holds frames groups ∧
      r.state.counters.packets = (groups.map List.length).sum ∧
      r.state.counters.droppedPackets = (groups.map droppedTotal).sum ∧
      ((∀ g ∈ groups, g.length < 2 ^ 32) →
        r.state.counters.packets = (frames.map fun f => f.packets.toNat).sum) ∧
      ((∀ g ∈ groups, droppedTotal g < 2 ^ 32) →
        r.state.counters.droppedPackets = (frames.map fun f => f.droppedPackets.toNat).sum) := by
  intro r frames
  have h : Conserved r := conserved_run policy timestamps ops
  obtain ⟨left, current, hleft, hcurrent, hflat⟩ := h.groups
  have hholds : List.Forall₂ Holds frames (left ++ [current]) :=
    List.rel_append (List.forall₂_map_left_iff.mpr hleft) (.cons hcurrent .nil)
  have hgroups : (left ++ [current]).flatten = r.accepted := by
    rw [List.flatten_append, List.flatten_singleton, hflat]
  have hpackets : r.state.counters.packets = ((left ++ [current]).map List.length).sum := by
    rw [h.packets, ← hgroups, List.length_flatten]
  have hdropped : r.state.counters.droppedPackets = ((left ++ [current]).map droppedTotal).sum := by
    rw [h.droppedPackets, ← hgroups]
    exact droppedTotal_flatten _
  refine ⟨?_, h.frames.symm, ?_, h.points, left ++ [current], hgroups, hholds, hpackets, hdropped,
    ?_, ?_⟩
  -- below 2^32 frames the 32-bit index has not wrapped
  · have hindices := congrArg (List.map UInt32.toNat) h.indices
    rw [List.map_map, List.map_map] at hindices
    refine hindices.trans ?_
    conv_rhs => rw [← List.map_id (List.range r.returned.length)]
    refine List.map_congr_left fun i mem => ?_
    exact UInt32.toNat_ofNat_of_lt' ((List.mem_range.mp mem).trans hfew)
  · intro hops
    exact points_eq_images policy timestamps hops
  · intro hlt
    rw [hpackets]
    exact (sum_toNat_eq (hholds.imp fun f g hfg => hfg.packets) hlt).symm
  · intro hlt
    rw [hdropped]
    exact (sum_toNat_eq (hholds.imp fun f g hfg => hfg.droppedPackets) hlt).symm

/-- One packet, closed by a `flush`. -/
theorem assembler_conserves_one_frame :
    (run {} .kLidar [.push ⟨{ dotNum := 1 }, List.replicate 14 0⟩ 0, .flush]).returned.length = 1 ∧
      ((run {} .kLidar [.push ⟨{ dotNum := 1 }, List.replicate 14 0⟩ 0, .flush]).returned.map
        fun f => f.index.toNat) = [0] := by
  have hlength : (run {} .kLidar
      [.push ⟨{ dotNum := 1 }, List.replicate 14 0⟩ 0, .flush]).returned.length = 1 := by
    decide +kernel
  have hindex := (assembler_conserves {} .kLidar
    [.push ⟨{ dotNum := 1 }, List.replicate 14 0⟩ 0, .flush] (by rw [hlength]; norm_num)).1
  rw [hlength] at hindex
  exact ⟨hlength, hindex⟩

/-! ## A frame with more drops than its counter holds -/

/-- A one-point packet at time zero. -/
def lossyPacket (udpCnt : UInt16) : DataPacketView where
  header := { dotNum := 1, udpCnt }
  data := List.replicate 14 0

/-- `n` packets with `2 ^ 15` lost before each one. -/
def lossyOps : ℕ → UInt16 → List Op
  | 0, _ => []
  | n + 1, udpCnt => .push (lossyPacket udpCnt) 0 :: lossyOps n (udpCnt + 0x8001)

/-- The assembler after the packet `udpCnt` and `k` gaps, all in one frame. -/
structure Lossy (k : ℕ) (udpCnt : UInt16) (s : FrameAssembler) : Prop where
  policy : s.policy = { mode := .kTimeWindow }
  time : s.time = { policy := .kLidar }
  drops : s.drops = { have_ := true, last := udpCnt }
  prevFrameCnt : s.prevFrameCnt = 0
  windowStart : s.windowStart = 0
  points : s.cur.points ≠ []
  baseTimeNs : s.cur.baseTimeNs = 0
  sourceType : s.cur.sourceType = .kCartesian32
  timeType : s.cur.timeType = .kNoSync
  curDropped : s.cur.droppedPackets = UInt32.ofNat (k * 2 ^ 15)
  dropped : s.counters.droppedPackets = k * 2 ^ 15

theorem gap_lossyPacket (udpCnt : UInt16) : DropCounter.gap udpCnt (udpCnt + 0x8001) = 0x8000 := by
  rw [DropCounter.gap]
  grind

theorem Lossy.first :
    Lossy 0 0 ((new { mode := .kTimeWindow } .kLidar).push (lossyPacket 0) 0).2 := by
  constructor <;> decide +kernel

theorem Lossy.push {k : ℕ} {udpCnt : UInt16} {s : FrameAssembler} (h : Lossy k udpCnt s) :
    (s.push (lossyPacket (udpCnt + 0x8001)) 0).1 = none ∧
      Lossy (k + 1) (udpCnt + 0x8001) (s.push (lossyPacket (udpCnt + 0x8001)) 0).2 := by
  have hdrop : s.drops.observe (udpCnt + 0x8001) false =
      ({ dropped := 0x8000 }, { have_ := true, last := udpCnt + 0x8001 }) := by
    simp [DropCounter.observe, h.drops, gap_lossyPacket]
  -- the state behind the drop counter, under a name so that it is not unfolded again
  obtain ⟨s₁, hs₁⟩ : ∃ s₁ : FrameAssembler, s₁ = { s with
      drops := { have_ := true, last := udpCnt + 0x8001 }
      counters := { s.counters with
        droppedPackets := s.counters.droppedPackets + 0x8000 } } := ⟨_, rfl⟩
  have hobserve : s.observe (lossyPacket (udpCnt + 0x8001)).header 0 =
      (⟨0, false, { dropped := 0x8000 }⟩, s₁) := by
    rw [hs₁]
    simp [observe, TimeMapper.map, h.time, lossyPacket, hdrop, h.prevFrameCnt]
  have haccepts : s.accepts (lossyPacket (udpCnt + 0x8001)) 0 = true := by
    rw [accepts, hobserve]
    rfl
  have hactive : s₁.timeWindowActive = true := by
    rw [hs₁, timeWindowActive, h.policy]
    rfl
  obtain ⟨first, hfirst⟩ := trackFallback_of_active hactive ⟨0, false, { dropped := 0x8000 }⟩
  have hwindow : (max (100000000 : Int64) 1).toUInt64 = 100000000 := by decide
  rw [push_accepted haccepts, hobserve, accept_of_not_close, hfirst, hs₁]
  · refine ⟨rfl, ⟨h.policy, h.time, rfl, rfl, h.windowStart, ?_, h.baseTimeNs, h.sourceType,
      h.timeType, ?_, ?_⟩⟩
    · simp [book, append, h.points]
    · simp only [book, append, h.curDropped]
      rw [Nat.succ_mul, UInt32.ofNat_add]
      rfl
    · simp only [book, h.dropped]
      omega
  · rw [hfirst, hs₁]
    exact h.points
  · rw [hfirst, hs₁]
    simp [closeDecision, timeWindowActive, window, h.policy, h.windowStart, h.sourceType,
      h.timeType, h.baseTimeNs, lossyPacket, hwindow]

theorem lossyOps_succ (n : ℕ) (udpCnt : UInt16) :
    lossyOps (n + 1) udpCnt = .push (lossyPacket udpCnt) 0 :: lossyOps n (udpCnt + 0x8001) := rfl

theorem Lossy.exec {k n : ℕ} {udpCnt : UInt16} {r : Run} (h : Lossy k udpCnt r.state)
    (hclosed : r.closed = []) :
    (r.exec (lossyOps n (udpCnt + 0x8001))).closed = [] ∧
      ∃ last, Lossy (k + n) last (r.exec (lossyOps n (udpCnt + 0x8001))).state := by
  induction n generalizing k udpCnt r with
  | zero => exact ⟨hclosed, udpCnt, h⟩
  | succ n ih =>
    obtain ⟨hnone, hnext⟩ := h.push
    have hcount : k + (n + 1) = k + 1 + n := by omega
    have hstill : (r.step (.push (lossyPacket (udpCnt + 0x8001)) 0)).closed = [] := by
      simp only [Run.step, hnone, hclosed, Option.toList_none, List.map_nil, List.append_nil]
    rw [hcount, lossyOps_succ, Run.exec, List.foldl_cons, ← Run.exec]
    exact ih hnext hstill

/-- After `n` gaps the assembler has counted `n * 2 ^ 15` drops, and so has the
frame in its 32 bits. -/
theorem lossy_totals (n : ℕ) :
    (run { mode := .kTimeWindow } .kLidar (lossyOps (n + 1) 0)).closed = [] ∧
      (run { mode := .kTimeWindow } .kLidar (lossyOps (n + 1) 0)).state.counters.droppedPackets =
        n * 2 ^ 15 ∧
      (run { mode := .kTimeWindow } .kLidar (lossyOps (n + 1) 0)).state.cur.droppedPackets =
        UInt32.ofNat (n * 2 ^ 15) := by
  have hstart : (Run.step { state := new { mode := .kTimeWindow } .kLidar }
      (.push (lossyPacket 0) 0)).closed = [] := by decide +kernel
  obtain ⟨hclosed, last, h⟩ := Lossy.exec (n := n) (r := Run.step
    { state := new { mode := .kTimeWindow } .kLidar } (.push (lossyPacket 0) 0)) Lossy.first hstart
  rw [Nat.zero_add] at h
  exact ⟨hclosed, h.dropped, h.curDropped⟩

/-- `2 ^ 17` gaps of `2 ^ 15` packets in one partial frame: the assembler has
counted `2 ^ 32` dropped packets, the frame none. -/
theorem droppedPackets_wraps :
    (run { mode := .kTimeWindow } .kLidar (lossyOps (2 ^ 17 + 1) 0)).closed = [] ∧
      (run { mode := .kTimeWindow } .kLidar
        (lossyOps (2 ^ 17 + 1) 0)).state.counters.droppedPackets = 2 ^ 32 ∧
      (run { mode := .kTimeWindow } .kLidar
        (lossyOps (2 ^ 17 + 1) 0)).state.cur.droppedPackets.toNat = 0 := by
  obtain ⟨hclosed, hdropped, hframe⟩ := lossy_totals (2 ^ 17)
  refine ⟨hclosed, hdropped.trans (by norm_num), ?_⟩
  exact (congrArg UInt32.toNat hframe).trans (by decide)

end LivoxMid360.FrameAssembler
