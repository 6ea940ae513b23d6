import LivoxMid360.FrameAssembler.Delivered

/-!
# The time window is a fixed grid

`window_start_` is moved only when a frame closes, by a whole number of windows.  For a
steady stream of packets this is the same as cutting the time since the first packet into
windows of one length: the frames are the non-empty classes of packets under
`windowIndex`, in order (`timeWindow_grid`).

In frame-counter mode with a `frame_cnt` that never changes, the fallback comes two
windows after the first packet and takes the first frame's start for the start of its
window.  So the first two windows are one frame and the grid is the same from then on.

Both cases rest on `OnGrid`: the window of the partial frame is a cell of the grid and the
groups so far are the runs of equal cells.  `OnGrid.push` is the step.  `Waiting` is the
state of the assembler before the fallback.
-/

namespace LivoxMid360.FrameAssembler

open Runs

/-! ## Steady streams -/

/-- The packet `q`, with its mapped time, follows `p` at a steady pace for windows of
length `w`. -/
structure Steady (w : ℕ) (p q : DataPacketView × UInt64) : Prop where
  points : isIgnored q.1.header = false
  dataType : q.1.header.dataType = p.1.header.dataType
  timeType : q.1.header.timeType = p.1.header.timeType
  ordered : p.2.toNat ≤ q.2.toNat
  spaced : q.2.toNat - p.2.toNat + 2 * w + q.1.header.timeInterval.toNat * 100 ≤ 2 ^ 32 - 1
  range : q.2.toNat + 2 * w < 2 ^ 64

/-- The cell of the grid a packet falls into: whole windows since the first packet. -/
def windowIndex (w first : ℕ) (a : Taken) : ℕ :=
  (a.t0.toNat - first) / w

variable {a : Taken}

/-- A packet of the same types joins a frame that started less than a window after it, if
its samples fit into the offsets of the frame. -/
theorem joins_of_times {first : Taken} (hdata : a.pkt.header.dataType = first.pkt.header.dataType)
    (htime : a.pkt.header.timeType = first.pkt.header.timeType)
    (hrange : a.t0.toNat + a.window.toNat < 2 ^ 64)
    (hafter : first.t0.toNat < a.t0.toNat + a.window.toNat)
    (hfits : a.t0.toNat - first.t0.toNat + a.pkt.header.timeInterval.toNat * 100 ≤ 2 ^ 32 - 1) :
    Joins first a := by
  refine ⟨hdata, htime, ?_, fun hbase => ?_⟩
  · rw [UInt64.lt_iff_toNat_lt, UInt64.toNat_add, Nat.mod_eq_of_lt hrange]
    exact hafter
  · have hword : (0xFFFFFFFF : UInt64).toNat = 2 ^ 32 - 1 := rfl
    rw [UInt64.le_iff_toNat_le, UInt64.toNat_add, UInt64.toNat_sub_of_le _ _ hbase, Taken.spanNs,
      toNat_spanNs, hword, Nat.mod_eq_of_lt (by omega)]
    exact hfits

/-- A packet that follows at a steady pace joins a frame that is not two windows old. -/
theorem joins_of_steady {w : ℕ} {first last : Taken} (hpos : 0 < w)
    (hdata : last.pkt.header.dataType = first.pkt.header.dataType)
    (htime : last.pkt.header.timeType = first.pkt.header.timeType)
    (hle : first.t0.toNat ≤ last.t0.toNat) (hlt : last.t0.toNat < first.t0.toNat + 2 * w)
    (hwindow : a.window.toNat = w) (h : Steady w last.stamp a.stamp) : Joins first a := by
  have hordered : last.t0.toNat ≤ a.t0.toNat := h.ordered
  have hspaced : a.t0.toNat - last.t0.toNat + 2 * w + a.pkt.header.timeInterval.toNat * 100 ≤
    2 ^ 32 - 1 := h.spaced
  have hrange : a.t0.toNat + 2 * w < 2 ^ 64 := h.range
  exact joins_of_times (h.dataType.trans hdata) (h.timeType.trans htime) (by omega) (by omega)
    (by omega)

/-- The packet that came last has the types of the packet that started the frame. -/
theorem Grouped.last_types {g : Grouping} (h : Grouped g) {first last : Taken} {rest : List Taken}
    (hcurrent : g.current = first :: rest) (hlast : g.current.getLast? = some last) :
    last.pkt.header.dataType = first.pkt.header.dataType ∧
      last.pkt.header.timeType = first.pkt.header.timeType := by
  have hgathered := h.current (by rw [hcurrent]; exact List.cons_ne_nil _ _)
  have hmem := List.mem_of_getLast? hlast
  rw [hcurrent] at hgathered hmem
  obtain ⟨-, joins⟩ := hgathered
  obtain rfl | mem := List.mem_cons.mp hmem
  · exact ⟨rfl, rfl⟩
  · exact ⟨(joins last mem).dataType, (joins last mem).timeType⟩

/-! ## On the grid -/

/-- The partial frame fills a cell of the grid, and the groups so far are the runs of equal
cells.  `merge` renames the cells: the fallback merges the first two. -/
structure OnGrid (w first lowest count : ℕ) (merge : ℕ → ℕ) (last : Taken) (g : Grouping) :
    Prop where
  grouped : Grouped g
  runs : GroupedBy (fun a => merge (windowIndex w first a)) last g
  window : g.state.window.toNat = w
  active : g.state.timeWindowActive = true
  frameCntFallback : g.state.counters.frameCntFallback = count
  cell : ∃ k, lowest ≤ k ∧ g.state.windowStart.toNat = first + w * k ∧
    last.t0.toNat < first + w * k + w
  base : ∀ a ∈ g.current.head?, g.state.windowStart.toNat ≤ a.t0.toNat ∧ a.t0.toNat ≤ last.t0.toNat

/-- The cell of a time at or after the start of cell `k`. -/
theorem windowIndex_eq {w first k : ℕ} (hpos : 0 < w) (hle : first + w * k ≤ a.t0.toNat) :
    windowIndex w first a = k + (a.t0.toNat - (first + w * k)) / w := by
  have hsplit : a.t0.toNat - first = w * k + (a.t0.toNat - (first + w * k)) := by omega
  rw [windowIndex, hsplit, Nat.mul_add_div hpos]

theorem windowIndex_of_lt {w first k : ℕ} (hpos : 0 < w) (hle : first + w * k ≤ a.t0.toNat)
    (hlt : a.t0.toNat < first + w * k + w) : windowIndex w first a = k := by
  rw [windowIndex_eq hpos hle, Nat.div_eq_of_lt (by omega), Nat.add_zero]

/-- A packet alone in its cell is on the grid. -/
theorem OnGrid.of_cell {w first lowest count : ℕ} {merge : ℕ → ℕ} {g : Grouping} (hpos : 0 < w)
    (hgrouped : Grouped g) (hruns : GroupedBy (fun b => merge (windowIndex w first b)) a g)
    (hcurrent : g.current = [a]) (hwindow : g.state.window.toNat = w)
    (hactive : g.state.timeWindowActive = true) (hcount : g.state.counters.frameCntFallback = count)
    (hfirst : first ≤ a.t0.toNat) (hlow : lowest ≤ windowIndex w first a)
    (hstart : g.state.windowStart.toNat = first + w * windowIndex w first a) :
    OnGrid w first lowest count merge a g := by
  have hdiv := Nat.div_add_mod (a.t0.toNat - first) w
  have hmod := Nat.mod_lt (a.t0.toNat - first) hpos
  rw [← windowIndex] at hdiv
  refine ⟨hgrouped, hruns, hwindow, hactive, hcount, ⟨_, hlow, hstart, by omega⟩, ?_⟩
  intro b mem
  rw [hcurrent] at mem
  rw [← Option.some.inj mem, hstart]
  exact ⟨by omega, le_rfl⟩

/-- The packet that came last is not before the lowest cell. -/
theorem OnGrid.late {w first lowest count : ℕ} {merge : ℕ → ℕ} {last : Taken} {g : Grouping}
    (h : OnGrid w first lowest count merge last g) : first + lowest * w ≤ last.t0.toNat := by
  obtain ⟨k, hlow, hstart, -⟩ := h.cell
  obtain ⟨front, rest, hcurrent⟩ := List.exists_cons_of_ne_nil h.runs.ne_nil
  obtain ⟨hbase, hfront⟩ := h.base front (by rw [hcurrent]; rfl)
  have hcells : lowest * w ≤ w * k := by
    rw [Nat.mul_comm]
    exact Nat.mul_le_mul_left w hlow
  omega

section Push

variable {w first lowest count : ℕ} {merge : ℕ → ℕ} {last : Taken} {g : Grouping}
  {p : DataPacketView × UInt64}

/-- A packet is accepted while the time window is active. -/
theorem accepts_of_active {s : FrameAssembler} (hactive : s.timeWindowActive = true)
    (hpoints : isIgnored p.1.header = false) : s.accepts p.1 p.2 = true := by
  have hlate : (s.observe p.1.header p.2).2.isLate (s.observe p.1.header p.2).1 = false := by
    have hstill : (s.observe p.1.header p.2).2.timeWindowActive = true := hactive
    rw [isLate, hstill]
    simp
  rw [accepts, hpoints, hlate]
  rfl

/-- An accepted packet leaves the time window active, and counts no fallback. -/
theorem OnGrid.kept (h : OnGrid w first lowest count merge last g)
    (haccepts : g.state.accepts p.1 p.2 = true) :
    (g.state.taken p.1 p.2).active = true ∧
      (g.step (.push p.1 p.2)).state.window.toNat = w ∧
      (g.step (.push p.1 p.2)).state.timeWindowActive = true ∧
      (g.step (.push p.1 p.2)).state.counters.frameCntFallback = count := by
  obtain ⟨early, htrack⟩ := trackFallback_of_active (s := (g.state.observe p.1.header p.2).2)
    h.active (g.state.observe p.1.header p.2).1
  have htracks := push_tracks haccepts
  rw [htrack] at htracks
  rw [Grouping.step_push_state, htracks.window, htracks.active, htracks.frameCntFallback]
  refine ⟨?_, h.window, h.active, h.frameCntFallback⟩
  show FrameAssembler.timeWindowActive _ = true
  rw [htrack]
  exact h.active

/-- **A steady packet keeps the assembler on the grid.** -/
theorem OnGrid.push (h : OnGrid w first lowest count merge last g) (hpos : 0 < w)
    (hmerge : ∀ i j, lowest ≤ i → i < j → merge i ≠ merge j)
    (hsteady : Steady w last.stamp (g.state.taken p.1 p.2).stamp) :
    g.state.accepts p.1 p.2 = true ∧ OnGrid w first lowest count merge (g.state.taken p.1 p.2)
      (g.step (.push p.1 p.2)) := by
  have haccepts : g.state.accepts p.1 p.2 = true := accepts_of_active h.active hsteady.points
  obtain ⟨hactive, hkeptWindow, hkeptActive, hkeptCount⟩ := h.kept haccepts
  have hwindow : (g.state.taken p.1 p.2).window.toNat = w := h.window
  obtain ⟨houtcome, -, -⟩ := push_effect haccepts h.grouped.pending h.grouped.current
  have hstate : (g.step (.push p.1 p.2)).state = (g.state.push p.1 p.2).2 := g.step_push_state
  have hgrouped := h.grouped.accepted haccepts
  have hruns := h.runs.push haccepts
  have hordered : last.t0.toNat ≤ (g.state.taken p.1 p.2).t0.toNat := hsteady.ordered
  have hrange : (g.state.taken p.1 p.2).t0.toNat + 2 * w < 2 ^ 64 := hsteady.range
  obtain ⟨k, hlow, hstart, hlast⟩ := h.cell
  obtain ⟨front, rest, hcurrent⟩ := List.exists_cons_of_ne_nil h.runs.ne_nil
  obtain ⟨hbase, hfront⟩ := h.base front (by rw [hcurrent]; rfl)
  obtain ⟨hdata, htime⟩ := h.grouped.last_types hcurrent h.runs.last
  have hjoins : Joins front (g.state.taken p.1 p.2) :=
    joins_of_steady hpos hdata htime hfront (by omega) hwindow hsteady
  have hlastCell : windowIndex w first last = k := windowIndex_of_lt hpos (by omega) hlast
  have hsum : (g.state.windowStart + (g.state.taken p.1 p.2).window).toNat = first + w * k + w := by
    rw [UInt64.toNat_add, hwindow, hstart, Nat.mod_eq_of_lt (by omega)]
  refine ⟨haccepts, ?_⟩
  rw [hcurrent] at houtcome
  obtain ⟨hnone, hkeep, hin⟩ | ⟨hsome, hpast, hmove⟩ := houtcome.of_active hjoins hactive
  · -- The packet is in the cell of the partial frame.
    rw [UInt64.lt_iff_toNat_lt, hsum] at hin
    have hcell : windowIndex w first (g.state.taken p.1 p.2) = k :=
      windowIndex_of_lt hpos (by omega) hin
    refine ⟨hgrouped, hruns ?_, hkeptWindow, hkeptActive, hkeptCount, ⟨k, hlow, ?_, hin⟩, ?_⟩
    · rw [hnone, hlastCell, hcell]
      simp
    · rw [hstate, hkeep, hstart]
    · rw [hstate, hkeep, Grouping.step_push_joined haccepts hnone, hcurrent]
      intro a mem
      rw [← Option.some.inj mem]
      exact ⟨hbase, hfront.trans hordered⟩
  · -- The packet starts a later cell.
    rw [UInt64.le_iff_toNat_le, hsum] at hpast
    have hstart' : (g.state.push p.1 p.2).2.windowStart.toNat =
        first + w * windowIndex w first (g.state.taken p.1 p.2) := by
      rw [hmove, toNat_gridStart (by omega), hwindow, hstart,
        windowIndex_eq (k := k) hpos (by omega)]
      ring
    have hlater : k < windowIndex w first (g.state.taken p.1 p.2) := by
      rw [windowIndex_eq (k := k) hpos (by omega)]
      have hone := Nat.div_pos (a := (g.state.taken p.1 p.2).t0.toNat - (first + w * k))
        (by omega) hpos
      omega
    obtain ⟨frame, hframe⟩ := Option.isSome_iff_exists.mp hsome
    refine .of_cell hpos hgrouped (hruns ?_) ?_ hkeptWindow hkeptActive hkeptCount (by omega)
      (hlow.trans hlater.le) ?_
    · rw [hsome, hlastCell]
      exact iff_of_true rfl (hmerge _ _ hlow hlater)
    · rw [Grouping.step_push_closed haccepts hframe]
    · rw [hstate, hstart']

end Push

/-! ## Before the fallback -/

/-- The assembler in frame-counter mode, all packets so far in one frame that is not two
windows old. -/
structure Waiting (w : ℕ) (first : UInt64) (last : Taken) (g : Grouping) : Prop where
  grouped : Grouped g
  runs : GroupedBy (fun a => max 1 (windowIndex w first.toNat a)) last g
  window : g.state.window.toNat = w
  mode : g.state.policy.mode = .kFrameCounter
  fallback : g.state.fallback = false
  frameCntChangedEver : g.state.frameCntChangedEver = false
  firstTime : g.state.firstTime = some first
  windowStart : g.state.windowStart = first
  frameCntFallback : g.state.counters.frameCntFallback = 0
  base : ∀ a ∈ g.current.head?, a.t0 = first
  range : ∀ a ∈ g.taken, first.toNat ≤ a.t0.toNat ∧ a.t0.toNat < first.toNat + 2 * w
  prevFrameCnt : g.state.prevFrameCnt = last.pkt.header.frameCnt

/-- Two windows after a time, in natural numbers. -/
theorem toNat_add_two_mul {w : ℕ} {t window : UInt64} (hwindow : window.toNat = w)
    (hrange : t.toNat + 2 * w < 2 ^ 64) : (t + 2 * window).toNat = t.toNat + 2 * w := by
  have htwo : (2 : UInt64).toNat = 2 := rfl
  rw [UInt64.toNat_add, UInt64.toNat_mul, htwo, hwindow, Nat.mod_eq_of_lt (a := 2 * w) (by omega),
    Nat.mod_eq_of_lt hrange]

/-- What the bookkeeping does while `frame_cnt` does not change. -/
theorem trackFallback_of_waiting {s : FrameAssembler} {o : Observation} {first : UInt64}
    (hmode : s.policy.mode = .kFrameCounter) (hfallback : s.fallback = false)
    (hever : s.frameCntChangedEver = false)
    (hfirst : s.firstTime = some first ∨ (s.firstTime = none ∧ first = o.t0))
    (hsame : o.frameChanged = false) (hle : first ≤ o.t0) :
    s.trackFallback o = if first + 2 * s.window ≤ o.t0 then
      { s with
        firstTime := some first
        fallback := true
        counters := { s.counters with frameCntFallback := s.counters.frameCntFallback + 1 } }
    else { s with firstTime := some first } := by
  unfold trackFallback
  obtain hsome | ⟨hnone, rfl⟩ := hfirst
  · rw [hsome]
    dsimp only
    rw [if_neg (UInt64.not_lt.mpr hle), if_pos ⟨hmode, hfallback⟩, if_neg (by rw [hsame]; decide)]
    exact if_congr (and_iff_right hever) rfl rfl
  · rw [hnone]
    dsimp only
    rw [if_pos ⟨hmode, hfallback⟩, if_neg (by rw [hsame]; decide)]
    exact if_congr (and_iff_right hever) rfl rfl

section Waiting

variable {w : ℕ} {first : UInt64} {last : Taken} {g : Grouping} {p : DataPacketView × UInt64}

/-- In the first two windows there is one cell. -/
theorem max_windowIndex_of_lt {a : Taken} (hpos : 0 < w)
    (hlt : a.t0.toNat < first.toNat + 2 * w) : max 1 (windowIndex w first.toNat a) = 1 :=
  max_eq_left (Nat.le_of_lt_succ ((Nat.div_lt_iff_lt_mul hpos).mpr (by omega)))

theorem Waiting.frameChanged (h : Waiting w first last g)
    (hframeCnt : p.1.header.frameCnt = last.pkt.header.frameCnt) :
    (g.state.havePrev && p.1.header.frameCnt != g.state.prevFrameCnt) = false := by
  rw [h.prevFrameCnt, hframeCnt]
  simp

theorem Waiting.last_range (h : Waiting w first last g) :
    first.toNat ≤ last.t0.toNat ∧ last.t0.toNat < first.toNat + 2 * w :=
  h.range last (h.grouped.mem (List.mem_of_getLast? h.runs.last))

variable (h : Waiting w first last g)
  (hsteady : Steady w last.stamp (g.state.taken p.1 p.2).stamp)
  (hframeCnt : p.1.header.frameCnt = last.pkt.header.frameCnt)

include h hsteady hframeCnt

theorem Waiting.accepts : g.state.accepts p.1 p.2 = true :=
  accepts_of_same_frame hsteady.points (h.frameChanged hframeCnt)

/-- A steady packet could join the partial frame, which started with the first packet. -/
theorem Waiting.outcome (hpos : 0 < w) :
    ∃ front rest, g.current = front :: rest ∧ front.t0 = first ∧
      Joins front (g.state.taken p.1 p.2) ∧
      Outcome g.state.windowStart g.state.nextIndex false (g.state.taken p.1 p.2) (front :: rest)
        (g.state.push p.1 p.2).1 (g.state.push p.1 p.2).2.windowStart := by
  obtain ⟨front, rest, hcurrent⟩ := List.exists_cons_of_ne_nil h.runs.ne_nil
  have hfront : front.t0 = first := h.base front (by rw [hcurrent]; rfl)
  obtain ⟨hlow, hhigh⟩ := h.last_range
  obtain ⟨hdata, htime⟩ := h.grouped.last_types hcurrent h.runs.last
  have hjoins : Joins front (g.state.taken p.1 p.2) :=
    joins_of_steady hpos hdata htime (by rwa [hfront]) (by rwa [hfront]) h.window hsteady
  obtain ⟨houtcome, -, -⟩ :=
    push_effect (h.accepts hsteady hframeCnt) h.grouped.pending h.grouped.current
  rw [hcurrent, h.frameChanged hframeCnt] at houtcome
  exact ⟨front, rest, hcurrent, hfront, hjoins, houtcome⟩

/-- The fallback begins with the first packet that comes two windows after the first. -/
theorem Waiting.trackFallback :
    (g.state.observe p.1.header p.2).2.trackFallback (g.state.observe p.1.header p.2).1 =
      if first.toNat + 2 * w ≤ (g.state.taken p.1 p.2).t0.toNat then
        { (g.state.observe p.1.header p.2).2 with
          firstTime := some first
          fallback := true
          counters := { (g.state.observe p.1.header p.2).2.counters with
            frameCntFallback := (g.state.observe p.1.header p.2).2.counters.frameCntFallback + 1 } }
      else { (g.state.observe p.1.header p.2).2 with firstTime := some first } := by
  have hordered : last.t0.toNat ≤ (g.state.taken p.1 p.2).t0.toNat := hsteady.ordered
  have hrange : (g.state.taken p.1 p.2).t0.toNat + 2 * w < 2 ^ 64 := hsteady.range
  obtain ⟨hlow, -⟩ := h.last_range
  have hdouble := toNat_add_two_mul (t := first) h.window (by omega)
  have htrack := trackFallback_of_waiting (s := (g.state.observe p.1.header p.2).2)
    (o := (g.state.observe p.1.header p.2).1) h.mode h.fallback h.frameCntChangedEver
    (.inl h.firstTime) (h.frameChanged hframeCnt)
    (UInt64.le_iff_toNat_le.mpr (hlow.trans hordered))
  refine htrack.trans (if_congr ?_ rfl rfl)
  rw [← hdouble]
  exact UInt64.le_iff_toNat_le

/-- Two windows after the first packet, a packet puts the assembler on the grid. -/
theorem Waiting.push_later (hpos : 0 < w)
    (hpast : first.toNat + 2 * w ≤ (g.state.taken p.1 p.2).t0.toNat) :
    OnGrid w first.toNat 2 1 (max 1) (g.state.taken p.1 p.2) (g.step (.push p.1 p.2)) := by
  have haccepts := h.accepts hsteady hframeCnt
  have hwindow : (g.state.taken p.1 p.2).window.toNat = w := h.window
  have hrange : (g.state.taken p.1 p.2).t0.toNat + 2 * w < 2 ^ 64 := hsteady.range
  have htrack := h.trackFallback hsteady hframeCnt
  rw [if_pos hpast] at htrack
  have htracks := push_tracks haccepts
  rw [htrack] at htracks
  have hactive : (g.state.taken p.1 p.2).active = true := by
    show FrameAssembler.timeWindowActive _ = true
    rw [htrack]
    simp [timeWindowActive]
  have hsum : (g.state.windowStart + (g.state.taken p.1 p.2).window).toNat = first.toNat + w := by
    rw [UInt64.toNat_add, hwindow, h.windowStart, Nat.mod_eq_of_lt (by omega)]
  have hstate : (g.step (.push p.1 p.2)).state = (g.state.push p.1 p.2).2 := g.step_push_state
  -- the packet closes the frame of the first two windows and moves the grid to its own window
  obtain ⟨front, rest, hcurrent, hfront, hjoins, houtcome⟩ := h.outcome hsteady hframeCnt hpos
  obtain ⟨-, -, hin⟩ | ⟨hsome, -, hmove⟩ := houtcome.of_active hjoins hactive
  · rw [UInt64.lt_iff_toNat_lt, hsum] at hin
    omega
  · have hstart : (g.state.push p.1 p.2).2.windowStart.toNat =
        first.toNat + w * windowIndex w first.toNat (g.state.taken p.1 p.2) := by
      rw [hmove, h.windowStart, toNat_gridStart (by omega), hwindow, windowIndex]
    have hcell : 2 ≤ windowIndex w first.toNat (g.state.taken p.1 p.2) :=
      (Nat.le_div_iff_mul_le hpos).mpr (by omega)
    obtain ⟨frame, hframe⟩ := Option.isSome_iff_exists.mp hsome
    refine .of_cell hpos (h.grouped.accepted haccepts) (h.runs.push haccepts ?_) ?_ ?_ ?_ ?_
      (by omega) hcell ?_
    · rw [hsome, max_windowIndex_of_lt hpos h.last_range.2]
      exact iff_of_true rfl (by omega)
    · rw [Grouping.step_push_closed haccepts hframe]
    · rw [hstate, htracks.window]
      exact h.window
    · rw [hstate, htracks.active]
      simp [timeWindowActive]
    · rw [hstate, htracks.frameCntFallback]
      exact congrArg (· + 1) h.frameCntFallback
    · rw [hstate, hstart]

/-- Until then, a packet joins the one frame. -/
theorem Waiting.push_sooner (hpos : 0 < w)
    (hsoon : (g.state.taken p.1 p.2).t0.toNat < first.toNat + 2 * w) :
    Waiting w first (g.state.taken p.1 p.2) (g.step (.push p.1 p.2)) := by
  have haccepts := h.accepts hsteady hframeCnt
  have hordered : last.t0.toNat ≤ (g.state.taken p.1 p.2).t0.toNat := hsteady.ordered
  have htrack := h.trackFallback hsteady hframeCnt
  rw [if_neg (Nat.not_le.mpr hsoon)] at htrack
  have htracks := push_tracks haccepts
  rw [htrack] at htracks
  have hinactive : (g.state.taken p.1 p.2).active = false := by
    show FrameAssembler.timeWindowActive _ = false
    rw [htrack]
    have hmode : (g.state.observe p.1.header p.2).2.policy.mode = .kFrameCounter := h.mode
    have hfallback : (g.state.observe p.1.header p.2).2.fallback = false := h.fallback
    simp [timeWindowActive, hmode, hfallback]
  have hstate : (g.step (.push p.1 p.2)).state = (g.state.push p.1 p.2).2 := g.step_push_state
  -- without the time window only a change of `frame_cnt` closes a frame
  obtain ⟨front, rest, hcurrent, hfront, hjoins, houtcome⟩ := h.outcome hsteady hframeCnt hpos
  obtain ⟨hnone, hkeep, -⟩ | ⟨-, -, hchanged⟩ := houtcome.of_inactive (fun _ => hjoins) hinactive
  · constructor
    · exact h.grouped.accepted haccepts
    · refine h.runs.push haccepts ?_
      rw [hnone, max_windowIndex_of_lt hpos h.last_range.2, max_windowIndex_of_lt hpos hsoon]
      simp
    · rw [hstate, htracks.window]
      exact h.window
    · rw [hstate, htracks.policy]
      exact h.mode
    · rw [hstate, htracks.fallback]
      exact h.fallback
    · rw [hstate, htracks.frameCntChangedEver]
      exact h.frameCntChangedEver
    · rw [hstate, htracks.firstTime]
    · rw [hstate, hkeep, h.windowStart]
    · rw [hstate, htracks.frameCntFallback]
      exact h.frameCntFallback
    · rw [Grouping.step_push_joined haccepts hnone, hcurrent]
      intro a mem
      rw [← Option.some.inj mem, hfront]
    · rw [Grouping.step_push_joined haccepts hnone]
      intro a mem
      obtain mem | mem := List.mem_append.mp mem
      · exact h.range a mem
      · rw [List.mem_singleton.mp mem]
        exact ⟨h.last_range.1.trans hordered, hsoon⟩
    · rw [hstate, push_accepted haccepts]
      exact (accept_tracking _ _ p.1).2.2.2
  · exact absurd hchanged (by decide)

/-- **A steady packet with the same `frame_cnt` keeps the assembler waiting, or two windows
after the first packet puts it on the grid.** -/
theorem Waiting.push (hpos : 0 < w) :
    g.state.accepts p.1 p.2 = true ∧
      (Waiting w first (g.state.taken p.1 p.2) (g.step (.push p.1 p.2)) ∨
        OnGrid w first.toNat 2 1 (max 1) (g.state.taken p.1 p.2) (g.step (.push p.1 p.2))) := by
  refine ⟨h.accepts hsteady hframeCnt, ?_⟩
  rcases Nat.lt_or_ge (g.state.taken p.1 p.2).t0.toNat (first.toNat + 2 * w) with hsoon | hpast
  · exact .inl (h.push_sooner hsteady hframeCnt hpos hsoon)
  · exact .inr (h.push_later hsteady hframeCnt hpos hpast)

end Waiting

/-! ## Whole streams -/

/-- The window of a positive policy. -/
theorem window_eq {s : FrameAssembler} {w : ℕ} (h : s.policy.window.toInt = w) (hpos : 0 < w) :
    s.window.toNat = w := by
  have hwindow := s.toNat_window
  rw [h] at hwindow
  omega

section Stream

variable {policy : FramePolicy} {timestamps : TimestampPolicy} {w : ℕ}
  {p : DataPacketView × UInt64}

theorem OnGrid.first (hmode : policy.mode = .kTimeWindow) (hpos : 0 < w)
    (hwindow : policy.window.toInt = w) (hpoints : isIgnored p.1.header = false) :
    OnGrid w ((new policy timestamps).taken p.1 p.2).t0.toNat 0 0 id
      ((new policy timestamps).taken p.1 p.2)
      (Grouping.step { state := new policy timestamps } (.push p.1 p.2)) := by
  obtain ⟨haccepts, hstart, hstep⟩ := first_push policy timestamps hpoints
  have hactive : (new policy timestamps).timeWindowActive = true := by
    simp [timeWindowActive, new, hmode]
  obtain ⟨early, htrack⟩ := trackFallback_of_active
    (s := ((new policy timestamps).observe p.1.header p.2).2) hactive
    ((new policy timestamps).observe p.1.header p.2).1
  have htracks := push_tracks haccepts
  rw [htrack] at htracks
  have hzero : windowIndex w ((new policy timestamps).taken p.1 p.2).t0.toNat
      ((new policy timestamps).taken p.1 p.2) = 0 := by
    simp [windowIndex]
  refine .of_cell hpos ((Grouped.fresh policy timestamps).accepted haccepts)
    (first_groupedBy policy timestamps _ hpoints) ?_ ?_ ?_ ?_ le_rfl (Nat.zero_le _) ?_
  · rw [hstep]
  · rw [Grouping.step_push_state, htracks.window]
    exact window_eq hwindow hpos
  · rw [Grouping.step_push_state, htracks.active]
    exact hactive
  · rw [Grouping.step_push_state, htracks.frameCntFallback]
    rfl
  · rw [Grouping.step_push_state, hstart, hzero]
    rfl

/-- In frame-counter mode the first packet is the earliest and no reason for the fallback. -/
theorem first_tracks (hmode : policy.mode = .kFrameCounter)
    (hwindow : (new policy timestamps).window.toNat = w)
    (hpoints : isIgnored p.1.header = false)
    (hrange : ((new policy timestamps).taken p.1 p.2).t0.toNat + 2 * w < 2 ^ 64) :
    Tracks { ((new policy timestamps).observe p.1.header p.2).2 with
      firstTime := some ((new policy timestamps).taken p.1 p.2).t0 }
      ((new policy timestamps).push p.1 p.2).2 := by
  obtain ⟨haccepts, -, -⟩ := first_push policy timestamps hpoints
  have htrack := trackFallback_of_waiting (s := ((new policy timestamps).observe p.1.header p.2).2)
    (o := ((new policy timestamps).observe p.1.header p.2).1) hmode rfl rfl (.inr ⟨rfl, rfl⟩) rfl
    (UInt64.le_refl _)
  have hnot : ¬((new policy timestamps).observe p.1.header p.2).1.t0 +
      2 * ((new policy timestamps).observe p.1.header p.2).2.window ≤
        ((new policy timestamps).observe p.1.header p.2).1.t0 := by
    show ¬((new policy timestamps).taken p.1 p.2).t0 + 2 * (new policy timestamps).window ≤
      ((new policy timestamps).taken p.1 p.2).t0
    have hpos := window_pos (new policy timestamps)
    rw [UInt64.le_iff_toNat_le, toNat_add_two_mul hwindow hrange]
    omega
  rw [if_neg hnot] at htrack
  have htracks := push_tracks haccepts
  rwa [htrack] at htracks

theorem Waiting.first (hmode : policy.mode = .kFrameCounter) (hpos : 0 < w)
    (hwindow : policy.window.toInt = w) (hpoints : isIgnored p.1.header = false)
    (hrange : ((new policy timestamps).taken p.1 p.2).t0.toNat + 2 * w < 2 ^ 64) :
    Waiting w ((new policy timestamps).taken p.1 p.2).t0 ((new policy timestamps).taken p.1 p.2)
      (Grouping.step { state := new policy timestamps } (.push p.1 p.2)) := by
  obtain ⟨haccepts, hstart, hstep⟩ := first_push policy timestamps hpoints
  have hwindow' : (new policy timestamps).window.toNat = w := window_eq hwindow hpos
  have htracks := first_tracks hmode hwindow' hpoints hrange
  constructor
  · exact (Grouped.fresh policy timestamps).accepted haccepts
  · exact first_groupedBy policy timestamps _ hpoints
  · rw [Grouping.step_push_state, htracks.window]
    exact hwindow'
  · rw [Grouping.step_push_state, htracks.policy]
    exact hmode
  · rw [Grouping.step_push_state, htracks.fallback]
    rfl
  · rw [Grouping.step_push_state, htracks.frameCntChangedEver]
    rfl
  · rw [Grouping.step_push_state, htracks.firstTime]
  · rw [Grouping.step_push_state, hstart]
  · rw [Grouping.step_push_state, htracks.frameCntFallback]
    rfl
  · rw [hstep]
    intro a mem
    rw [← Option.some.inj mem]
  · rw [hstep]
    intro a mem
    rw [List.mem_singleton.mp mem]
    omega
  · rw [Grouping.step_push_state, push_accepted haccepts]
    exact (accept_tracking _ _ p.1).2.2.2

/-- A stream of packets with their mapped times, at a steady pace for windows of length
`w`: point packets of one data type and one time base, in the order of their times, and
neither two windows nor an interval of a packet away from what 32 bits hold. -/
structure SteadyStream (w : ℕ) (dataType : DataType) (timeType : TimeType)
    (stream : List (DataPacketView × UInt64)) : Prop where
  points : ∀ p ∈ stream, isIgnored p.1.header = false
  dataType : ∀ p ∈ stream, p.1.header.dataType = dataType
  timeType : ∀ p ∈ stream, p.1.header.timeType = timeType
  ordered : stream.IsChain fun p q => p.2.toNat ≤ q.2.toNat
  spaced : stream.IsChain fun p q =>
    q.2.toNat - p.2.toNat + 2 * w + q.1.header.timeInterval.toNat * 100 ≤ 2 ^ 32 - 1
  range : ∀ p ∈ stream, p.2.toNat + 2 * w < 2 ^ 64

theorem SteadyStream.chain {dataType : DataType} {timeType : TimeType}
    {stream : List (DataPacketView × UInt64)} (h : SteadyStream w dataType timeType stream) :
    stream.IsChain (Steady w) := by
  have hordered := List.isChain_iff_getElem.mp h.ordered
  have hspaced := List.isChain_iff_getElem.mp h.spaced
  refine List.isChain_iff_getElem.mpr fun i hi => ?_
  have hp := List.getElem_mem (l := stream) (n := i) (by omega)
  have hq := List.getElem_mem hi
  exact ⟨h.points _ hq, (h.dataType _ hq).trans (h.dataType _ hp).symm,
    (h.timeType _ hq).trans (h.timeType _ hp).symm, hordered i hi, hspaced i hi, h.range _ hq⟩

/-- The frames of a stream that is grouped by a key that follows the times. -/
theorem returned_eq_classes {key : ℕ → ℕ} (hkey : Monotone key) {last : Taken} {first : ℕ}
    {ops : List Op} {stream : List (DataPacketView × UInt64)}
    (hordered : stream.IsChain fun p q => p.2.toNat ≤ q.2.toNat)
    (hgrouped : GroupedBy (fun a => key (windowIndex w first a)) last
      (grouping policy timestamps ops))
    (htaken : (grouping policy timestamps ops).taken.map Taken.stamp = stream) :
    (run policy timestamps (ops ++ [.flush])).returned =
      assembled (classes (fun a => key (windowIndex w first a))
        (grouping policy timestamps ops).taken) := by
  have hpairs : (grouping policy timestamps ops).taken.Pairwise fun a b =>
      key (windowIndex w first a) ≤ key (windowIndex w first b) := by
    rw [← htaken, List.isChain_map] at hordered
    have htimes : ((grouping policy timestamps ops).taken.map fun a => a.t0.toNat).Pairwise
        (· ≤ ·) := (List.isChain_map_of_isChain (fun a : Taken => a.t0.toNat) (fun _ _ h => h)
          hordered).pairwise
    refine (List.pairwise_map.mp htimes).imp fun hle => hkey ?_
    exact Nat.div_le_div_right (Nat.sub_le_sub_right hle _)
  rw [run_concat, ← grouping_toRun, ← Grouping.step_toRun,
    hgrouped.flush (grouped_run policy timestamps ops), classes_eq_runs hpairs]

variable {dataType : DataType} {timeType : TimeType} {received : List (DataPacketView × UInt64)}

theorem SteadyStream.points_first (hstream : SteadyStream w dataType timeType
    (stamped { policy := timestamps } (p :: received))) : isIgnored p.1.header = false :=
  hstream.points (p.1, (TimeMapper.map { policy := timestamps } p.1.header p.2).1)
    List.mem_cons_self

/-- A steady stream in time-window mode. -/
theorem onGrid_stream (hmode : policy.mode = .kTimeWindow) (hpos : 0 < w)
    (hwindow : policy.window.toInt = w)
    (hstream : SteadyStream w dataType timeType
      (stamped { policy := timestamps } (p :: received))) :
    (∃ last, OnGrid w (TimeMapper.map { policy := timestamps } p.1.header p.2).1.toNat 0 0 id last
      (grouping policy timestamps (pushAll (p :: received)))) ∧
      (grouping policy timestamps (pushAll (p :: received))).taken.map Taken.stamp =
        stamped { policy := timestamps } (p :: received) := by
  obtain ⟨⟨last, hlast, -⟩, htaken⟩ := grouping_stream policy timestamps
    (P := fun rest last g => OnGrid w
      (TimeMapper.map { policy := timestamps } p.1.header p.2).1.toNat 0 0 id last g ∧
        (last.stamp :: rest).IsChain (Steady w))
    (by
      rintro rest last g q ⟨h, hchain⟩
      obtain ⟨hnext, hrest⟩ := List.isChain_cons_cons.mp hchain
      obtain ⟨haccepts, hgrid⟩ := h.push hpos (fun i j _ hij => hij.ne) hnext
      exact ⟨haccepts, hgrid, hrest⟩)
    hstream.points_first ⟨OnGrid.first hmode hpos hwindow hstream.points_first, hstream.chain⟩
  exact ⟨⟨last, hlast⟩, htaken⟩

/-- A steady stream in frame-counter mode whose `frame_cnt` does not change. -/
theorem waiting_stream (hmode : policy.mode = .kFrameCounter) (hpos : 0 < w)
    (hwindow : policy.window.toInt = w)
    (hstream : SteadyStream w dataType timeType
      (stamped { policy := timestamps } (p :: received)))
    (hframeCnt : ∀ q ∈ stamped { policy := timestamps } (p :: received),
      q.1.header.frameCnt = p.1.header.frameCnt) :
    (∃ last, Waiting w (TimeMapper.map { policy := timestamps } p.1.header p.2).1 last
        (grouping policy timestamps (pushAll (p :: received))) ∨
      OnGrid w (TimeMapper.map { policy := timestamps } p.1.header p.2).1.toNat 2 1 (max 1) last
        (grouping policy timestamps (pushAll (p :: received)))) ∧
      (grouping policy timestamps (pushAll (p :: received))).taken.map Taken.stamp =
        stamped { policy := timestamps } (p :: received) := by
  have hpoints := hstream.points_first
  have hrange := hstream.range
    (p.1, (TimeMapper.map { policy := timestamps } p.1.header p.2).1) List.mem_cons_self
  have hchain : (stamped { policy := timestamps } (p :: received)).IsChain fun p q =>
      Steady w p q ∧ q.1.header.frameCnt = p.1.header.frameCnt := by
    have hsteady := List.isChain_iff_getElem.mp hstream.chain
    refine List.isChain_iff_getElem.mpr fun i hi => ⟨hsteady i hi, ?_⟩
    rw [hframeCnt _ (List.getElem_mem _), hframeCnt _ (List.getElem_mem _)]
  obtain ⟨⟨last, hlast, -⟩, htaken⟩ := grouping_stream policy timestamps
    (P := fun rest last g =>
      (Waiting w (TimeMapper.map { policy := timestamps } p.1.header p.2).1 last g ∨
        OnGrid w (TimeMapper.map { policy := timestamps } p.1.header p.2).1.toNat 2 1
          (max 1) last g) ∧
      (last.stamp :: rest).IsChain fun p q =>
        Steady w p q ∧ q.1.header.frameCnt = p.1.header.frameCnt)
    (by
      rintro rest last g q ⟨hwait | hgrid, hchain⟩
      · obtain ⟨⟨hnext, hsame⟩, hrest⟩ := List.isChain_cons_cons.mp hchain
        obtain ⟨haccepts, hstep⟩ := hwait.push hnext hsame hpos
        exact ⟨haccepts, hstep, hrest⟩
      · obtain ⟨⟨hnext, -⟩, hrest⟩ := List.isChain_cons_cons.mp hchain
        obtain ⟨haccepts, hstep⟩ := hgrid.push hpos (fun i j hi hij => by omega) hnext
        exact ⟨haccepts, .inr hstep, hrest⟩)
    hpoints ⟨.inl (Waiting.first hmode hpos hwindow hpoints hrange), hchain⟩
  exact ⟨⟨last, hlast⟩, htaken⟩

end Stream

/-- **Time-window assembly is grouping on a fixed grid.**  Let the packets of a steady
stream be pushed into a fresh assembler and the last frame be flushed.

* In time-window mode the frames are the non-empty classes of packets under the number of
  whole windows since the first packet, in order.
* In frame-counter mode with a constant `frame_cnt` they are the same classes, but that the
  first two windows are one frame, and the fallback was counted once, exactly if some packet
  came two windows after the first. -/
theorem timeWindow_grid (policy : FramePolicy) (timestamps : TimestampPolicy)
    {received : List (DataPacketView × UInt64)} {w : ℕ} {dataType : DataType}
    {timeType : TimeType} {first : DataPacketView × UInt64}
    (hwindow : policy.window.toInt = w) (hpos : 0 < w)
    (hstream : SteadyStream w dataType timeType (stamped { policy := timestamps } received))
    (hfirst : (stamped { policy := timestamps } received).head? = some first) :
    let g := grouping policy timestamps (pushAll received)
    let frames := (run policy timestamps (pushAll received ++ [.flush])).returned
    (policy.mode = .kTimeWindow →
      g.taken.map Taken.stamp = stamped { policy := timestamps } received ∧
      frames = assembled (classes (windowIndex w first.2.toNat) g.taken)) ∧
    (policy.mode = .kFrameCounter →
      (∀ p ∈ stamped { policy := timestamps } received,
        p.1.header.frameCnt = first.1.header.frameCnt) →
      g.taken.map Taken.stamp = stamped { policy := timestamps } received ∧
      frames = assembled (classes (fun a => max 1 (windowIndex w first.2.toNat a)) g.taken) ∧
      g.state.counters.frameCntFallback =
        if ∃ p ∈ stamped { policy := timestamps } received, first.2.toNat + 2 * w ≤ p.2.toNat
        then 1 else 0) := by
  intro g frames
  cases received with
  | nil => exact absurd hfirst (by simp [stamped])
  | cons =>
    cases hfirst
    constructor
    · intro hmode
      obtain ⟨⟨last, hlast⟩, htaken⟩ := onGrid_stream hmode hpos hwindow hstream
      exact ⟨htaken, returned_eq_classes monotone_id hstream.ordered hlast.runs htaken⟩
    · intro hmode hframeCnt
      obtain ⟨⟨last, hlast⟩, htaken⟩ := waiting_stream hmode hpos hwindow hstream hframeCnt
      have hruns := hlast.elim Waiting.runs OnGrid.runs
      refine ⟨htaken, returned_eq_classes (fun i j hij => by gcongr) hstream.ordered hruns htaken,
        ?_⟩
      -- still waiting, no packet came two windows later; on the grid, the last one did
      obtain hwait | hgrid := hlast
      · rw [if_neg, hwait.frameCntFallback]
        rintro ⟨q, mem, hle⟩
        rw [← htaken] at mem
        obtain ⟨a, ha, rfl⟩ := List.mem_map.mp mem
        exact absurd (hwait.range a ha).2 (Nat.not_lt.mpr hle)
      · rw [if_pos, hgrid.frameCntFallback]
        have hmem := hgrid.grouped.mem (List.mem_of_getLast? hgrid.runs.last)
        refine ⟨last.stamp, htaken ▸ List.mem_map_of_mem hmem, ?_⟩
        exact hgrid.late

/-- A packet of one point at the given time. -/
def packetAt (timestampNs : UInt64) : DataPacketView where
  header := { dotNum := 1, timestampNs }
  data := List.replicate 14 0

/-- Three packets, the last more than two microseconds after the first. -/
def threePackets : List (DataPacketView × UInt64) :=
  [(packetAt 0, 0), (packetAt 1500, 0), (packetAt 2500, 0)]

/-- With a window of a microsecond, the fallback cuts before the third packet. -/
theorem timeWindow_grid_threePackets :
    (run { window := 1000 } .kLidar (pushAll threePackets ++ [.flush])).returned.length = 2 ∧
      (run { window := 1000 } .kLidar (pushAll threePackets ++ [.flush])).returned =
        assembled (classes (fun a => max 1 (windowIndex 1000 0 a))
          (grouping { window := 1000 } .kLidar (pushAll threePackets)).taken) := by
  have hstream : SteadyStream 1000 .kCartesian32 .kNoSync
      (stamped { policy := .kLidar } threePackets) := by
    constructor <;> decide
  refine ⟨by decide +kernel, ?_⟩
  exact ((timeWindow_grid { window := 1000 } .kLidar (by decide) (by decide) hstream rfl).2 rfl
    (by decide)).2.1

end LivoxMid360.FrameAssembler
