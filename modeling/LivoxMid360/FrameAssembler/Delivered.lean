import LivoxMid360.FrameAssembler.Groups

/-!
# What is in a delivered frame

Two facts about every frame that leaves the assembler, whatever the policies and clocks
did before.

**A frame is homogeneous** (`frames_homogeneous`).  Its packets have one data type and one
time base, and none of them lies a window or more before the packet that started it.  The
partial frame also lies in its window: `window_start_` is never behind the base time, and
a frame filled by the time window under one policy ends before the window does
(`InWindow`).  The additions of `push` are 64 bits wide, so this is said of runs in which
no mapped time plus a window wraps.

**The times of the points are exact** (`offsets_exact`).  `Point::offset_ns` has 32 bits
and `append` clamps it.  The test that closes a frame is made once for each packet, on the
packet's own time and interval; `sampleTime_toNat` and `elapsedNs_le` place all samples of
the packet between the two, so no offset is ever cut off.
-/

namespace LivoxMid360.FrameAssembler

/-! ## Sample times -/

/-- The time between the first sample of a packet and the `i`-th. -/
def elapsedNs (h : DataPacketHeader) (i : ℕ) : ℕ :=
  if h.dotNum.toNat ≤ 1 then 0 else h.timeInterval.toNat * 100 * i / (h.dotNum.toNat - 1)

theorem elapsedNs_zero (h : DataPacketHeader) : elapsedNs h 0 = 0 := by
  simp [elapsedNs]

variable {i : ℕ}

theorem elapsedNs_mono (h : DataPacketHeader) {j : ℕ} (hij : i ≤ j) :
    elapsedNs h i ≤ elapsedNs h j := by
  unfold elapsedNs
  split_ifs
  · exact le_rfl
  · exact Nat.div_le_div_right (Nat.mul_le_mul_left _ hij)

/-- The last of several samples is the whole interval after the first. -/
theorem elapsedNs_last {h : DataPacketHeader} (hdots : 2 ≤ h.dotNum.toNat) :
    elapsedNs h (h.dotNum.toNat - 1) = h.timeInterval.toNat * 100 := by
  rw [elapsedNs, if_neg (by omega)]
  exact Nat.mul_div_cancel _ (by omega)

theorem elapsedNs_le {h : DataPacketHeader} (hi : i < h.dotNum.toNat) :
    elapsedNs h i ≤ h.timeInterval.toNat * 100 := by
  by_cases hdots : 2 ≤ h.dotNum.toNat
  · rw [← elapsedNs_last hdots]
    exact elapsedNs_mono h (by omega)
  · rw [elapsedNs, if_pos (by omega)]
    exact Nat.zero_le _

theorem toNat_spanNs (interval : UInt16) :
    (interval.toUInt64 * 100).toNat = interval.toNat * 100 := by
  have hlt := interval.toNat_lt
  have hhundred : (100 : UInt64).toNat = 100 := rfl
  rw [UInt64.toNat_mul, UInt16.toNat_toUInt64, hhundred, Nat.mod_eq_of_lt (by omega)]

/-- The interpolation of `sample_timestamp_ns`, relative to the packet's timestamp. -/
theorem toNat_sampleTimestampNs_sub (h : DataPacketHeader) (hi : i < h.dotNum.toNat) :
    (sampleTimestampNs h i - h.timestampNs).toNat = elapsedNs h i := by
  have hdots := h.dotNum.toNat_lt
  have hinterval := h.timeInterval.toNat_lt
  rw [sampleTimestampNs]
  split_ifs with hfirst
  · have hzero : elapsedNs h i = 0 := by
      obtain hone | rfl := hfirst
      · exact if_pos (UInt16.le_iff_toNat_le.mp hone)
      · exact elapsedNs_zero h
    rw [hzero, UInt64.sub_self]
    rfl
  · rw [not_or, UInt16.not_le, UInt16.lt_iff_toNat_lt] at hfirst
    have hone : (1 : UInt16).toNat = 1 := rfl
    rw [hone] at hfirst
    have hindex : (UInt64.ofNat i).toNat = i :=
      UInt64.toNat_ofNat_of_lt' (by rw [UInt64.size]; omega)
    have hcount : (h.dotNum.toUInt64 - 1).toNat = h.dotNum.toNat - 1 := by
      rw [UInt64.toNat_sub_of_le _ _ (UInt64.le_iff_toNat_le.mpr ?_), UInt16.toNat_toUInt64]
      · rfl
      · rw [UInt16.toNat_toUInt64]
        exact hfirst.1.le
    have hproduct : (h.timeInterval.toUInt64 * 100 * UInt64.ofNat i).toNat =
        h.timeInterval.toNat * 100 * i := by
      rw [UInt64.toNat_mul, toNat_spanNs, hindex]
      refine Nat.mod_eq_of_lt ?_
      calc h.timeInterval.toNat * 100 * i
          ≤ 2 ^ 16 * 100 * 2 ^ 16 := by gcongr; omega
        _ < 2 ^ 64 := by norm_num
    dsimp only
    rw [UInt64.add_comm, UInt64.add_sub_cancel, UInt64.toNat_div, hproduct, hcount, elapsedNs,
      if_neg (by omega)]

/-- A packet ends before the 64 bits of its times do. -/
def EndsInRange (a : Taken) : Prop :=
  a.t0.toNat + a.pkt.header.timeInterval.toNat * 100 < 2 ^ 64

variable {a : Taken}

theorem sampleTime_toNat (hrange : EndsInRange a) (hi : i < a.pkt.header.dotNum.toNat) :
    (sampleTime a.pkt.header a.t0 i).toNat = a.t0.toNat + elapsedNs a.pkt.header i := by
  have hle := elapsedNs_le hi
  rw [EndsInRange] at hrange
  rw [sampleTime, UInt64.toNat_add, toNat_sampleTimestampNs_sub _ hi]
  exact Nat.mod_eq_of_lt (by omega)

/-- The sample times of a packet: in order, from the mapped time of the packet to the end
of its interval. -/
structure Interpolated (a : Taken) : Prop where
  ordered : a.sampleTimes.Pairwise (· ≤ ·)
  first : a.sampleTimes.head? = some a.t0
  last : 2 ≤ a.pkt.header.dotNum.toNat → ∃ t, a.sampleTimes.getLast? = some t ∧
    t.toNat = a.t0.toNat + a.pkt.header.timeInterval.toNat * 100

theorem interpolated (hpoints : isIgnored a.pkt.header = false) (hrange : EndsInRange a) :
    Interpolated a := by
  have hdots : 0 < a.pkt.header.dotNum.toNat := by
    simp only [isIgnored, Bool.or_eq_false_iff, decide_eq_false_iff_not] at hpoints
    exact Nat.pos_of_ne_zero fun hzero => hpoints.2 (UInt16.toNat_inj.mp hzero)
  constructor
  · rw [Taken.sampleTimes, List.pairwise_map]
    refine (List.pairwise_lt_range).imp_of_mem fun {i j} hi hj hij => ?_
    rw [UInt64.le_iff_toNat_le, sampleTime_toNat hrange (List.mem_range.mp hi),
      sampleTime_toNat hrange (List.mem_range.mp hj)]
    exact Nat.add_le_add_left (elapsedNs_mono _ hij.le) _
  · rw [Taken.sampleTimes, List.head?_map, List.head?_range, if_neg hdots.ne']
    refine congrArg some (UInt64.toNat_inj.mp ?_)
    rw [sampleTime_toNat hrange hdots, elapsedNs_zero, Nat.add_zero]
  · intro htwo
    refine ⟨sampleTime a.pkt.header a.t0 (a.pkt.header.dotNum.toNat - 1), ?_, ?_⟩
    · rw [Taken.sampleTimes, List.getLast?_map, List.getLast?_range, if_neg hdots.ne']
      rfl
    · rw [sampleTime_toNat hrange (by omega), elapsedNs_last htwo]

/-! ## Offsets -/

/-- A sample that is not more than 32 bits of nanoseconds after the base time keeps its
time: the offset is neither clamped nor cut off. -/
theorem framePoint_offsetNs {pkt : DataPacketView} {t0 base : UInt64}
    (h : (sampleTime pkt.header t0 i).toNat ≤ base.toNat + 0xFFFFFFFF) :
    base.toNat + (framePoint pkt t0 base i).offsetNs.toNat =
      max (sampleTime pkt.header t0 i).toNat base.toNat := by
  simp only [framePoint]
  generalize sampleTime pkt.header t0 i = ts at *
  have hword : (0xFFFFFFFF : UInt64).toNat = 0xFFFFFFFF := rfl
  by_cases hle : base ≤ ts
  · have hle' := UInt64.le_iff_toNat_le.mp hle
    have hoffset : (ts - base).toNat = ts.toNat - base.toNat := UInt64.toNat_sub_of_le _ _ hle
    have hmin : min (ts - base) 0xFFFFFFFF = ts - base := by
      refine if_pos (UInt64.le_iff_toNat_le.mpr ?_)
      rw [hoffset, hword]
      omega
    rw [if_pos hle, hmin, UInt64.toNat_toUInt32, hoffset, Nat.mod_eq_of_lt (by omega)]
    omega
  · have hlt := UInt64.lt_iff_toNat_lt.mp (UInt64.not_le.mp hle)
    rw [if_neg hle]
    have hzero : ((min (0 : UInt64) 0xFFFFFFFF).toUInt32).toNat = 0 := by decide
    rw [hzero]
    omega

/-- Every sample of a packet that could join a frame is within the offsets of the frame. -/
theorem Joins.sampleTime_le {first : Taken} (h : Joins first a) (hrange : EndsInRange a)
    (hi : i < a.pkt.header.dotNum.toNat) :
    (sampleTime a.pkt.header a.t0 i).toNat ≤ first.t0.toNat + 0xFFFFFFFF := by
  have helapsed := elapsedNs_le hi
  have hinterval := a.pkt.header.timeInterval.toNat_lt
  rw [sampleTime_toNat hrange hi]
  rw [EndsInRange] at hrange
  by_cases hle : first.t0 ≤ a.t0
  · have hfits := UInt64.le_iff_toNat_le.mp (h.fits hle)
    have hword : (0xFFFFFFFF : UInt64).toNat = 0xFFFFFFFF := rfl
    rw [UInt64.toNat_add, UInt64.toNat_sub_of_le _ _ hle, Taken.spanNs, toNat_spanNs, hword,
      Nat.mod_eq_of_lt (by omega)] at hfits
    omega
  · -- The packet begins before the frame: only its own length counts.
    have hlt := UInt64.lt_iff_toNat_lt.mp (UInt64.not_le.mp hle)
    omega

/-- So is every sample of the packet that started it. -/
theorem sampleTime_le_self (hrange : EndsInRange a) (hi : i < a.pkt.header.dotNum.toNat) :
    (sampleTime a.pkt.header a.t0 i).toNat ≤ a.t0.toNat + 0xFFFFFFFF := by
  have helapsed := elapsedNs_le hi
  have hinterval := a.pkt.header.timeInterval.toNat_lt
  rw [sampleTime_toNat hrange hi]
  omega

/-- The end of a list of times, started at a base. -/
theorem foldl_max_mem (times : List UInt64) (base : UInt64) :
    times.foldl max base ∈ base :: times ∧ ∀ t ∈ base :: times, t ≤ times.foldl max base := by
  induction times generalizing base with
  | nil => simp
  | cons t times ih =>
    obtain ⟨hmem, hmax⟩ := ih (max base t)
    rw [List.foldl_cons]
    have hbase : base ≤ max base t ∧ t ≤ max base t ∧ (max base t = base ∨ max base t = t) := by
      have hdef : max base t = if base ≤ t then t else base := rfl
      rw [hdef]
      split_ifs with hle
      · exact ⟨hle, UInt64.le_refl t, .inr rfl⟩
      · exact ⟨UInt64.le_refl base, UInt64.le_of_lt (UInt64.not_le.mp hle), .inl rfl⟩
    constructor
    · obtain heq | mem := List.mem_cons.mp hmem
      · rw [heq]
        obtain h | h := hbase.2.2 <;> simp [h]
      · exact List.mem_cons_of_mem _ (List.mem_cons_of_mem _ mem)
    · intro t' mem
      have hhead := hmax _ List.mem_cons_self
      obtain rfl | mem := List.mem_cons.mp mem
      · exact UInt64.le_trans hbase.1 hhead
      · obtain rfl | mem := List.mem_cons.mp mem
        · exact UInt64.le_trans hbase.2.1 hhead
        · exact hmax t' (List.mem_cons_of_mem _ mem)

/-- The times in a frame made of a group: the offset of each point from the base time, and
the end of the frame. -/
structure ExactTimes (f : Frame) (group : List Taken) : Prop where
  offsets : (f.points.map fun p => f.baseTimeNs.toNat + p.offsetNs.toNat) =
    (group.flatMap Taken.sampleTimes).map fun t => max t.toNat f.baseTimeNs.toNat
  end_mem : f.endTimeNs ∈ f.baseTimeNs :: group.flatMap Taken.sampleTimes
  end_max : ∀ t ∈ f.baseTimeNs :: group.flatMap Taken.sampleTimes, t ≤ f.endTimeNs

theorem Gathered.exactTimes {group : List Taken} (h : Gathered group)
    (hrange : ∀ a ∈ group, EndsInRange a) (index : UInt32) :
    ExactTimes (assemble index group) group := by
  obtain @⟨first, rest, -, joins⟩ := h
  obtain ⟨hmem, hmax⟩ := foldl_max_mem ((first :: rest).flatMap Taken.sampleTimes) first.t0
  refine ⟨?_, hmem, hmax⟩
  show ((first :: rest).flatMap (Taken.points first.t0)).map _ = _
  rw [List.map_flatMap, List.map_flatMap]
  refine List.flatMap_congr fun a mem => ?_
  rw [Taken.points, Taken.sampleTimes, List.map_map, List.map_map]
  refine List.map_congr_left fun i hi => framePoint_offsetNs ?_
  obtain rfl | mem' := List.mem_cons.mp mem
  · exact sampleTime_le_self (hrange a mem) (List.mem_range.mp hi)
  · exact (joins a mem').sampleTime_le (hrange a mem) (List.mem_range.mp hi)

/-- **Point offsets are exact.**  In every run in which no packet ends beyond the 64 bits of
its times:

* every returned frame is made of a group of the packets taken, each point has the time of
  its sample or, if that lies before the frame, the base time, and the end time is the
  greatest of them;
* the samples of every packet are in order, from its mapped time to the end of its
  interval. -/
theorem offsets_exact (policy : FramePolicy) (timestamps : TimestampPolicy) (ops : List Op)
    (hrange : ∀ a ∈ (grouping policy timestamps ops).taken,
      a.t0.toNat + a.pkt.header.timeInterval.toNat * 100 < 2 ^ 64) :
    (∀ f ∈ (run policy timestamps ops).returned, ∃ group,
      group ⊆ (grouping policy timestamps ops).taken ∧ f = assemble f.index group ∧
        ExactTimes f group) ∧
    ∀ a ∈ (grouping policy timestamps ops).taken, Interpolated a := by
  have h := grouped_run policy timestamps ops
  constructor
  · intro f mem
    rw [← grouping_toRun, h.returned] at mem
    obtain ⟨group, hgroup, hf⟩ := mem_assembled mem
    obtain ⟨hgathered, hsubset⟩ := h.frames group hgroup
    refine ⟨group, hsubset, hf, ?_⟩
    rw [hf]
    exact hgathered.exactTimes (fun a ha => hrange a (hsubset ha)) _
  · intro a mem
    exact interpolated (h.taken a mem).1 (hrange a mem)

/-- One packet of two samples, a microsecond apart, and a `flush`. -/
def twoSamples : List Op :=
  [.push ⟨{ dotNum := 2, timeInterval := 10 }, List.replicate 28 0⟩ 0, .flush]

theorem offsets_exact_twoSamples :
    (run {} .kLidar twoSamples).returned.length = 1 ∧
      ∀ f ∈ (run {} .kLidar twoSamples).returned, ∃ group,
        group ⊆ (grouping {} .kLidar twoSamples).taken ∧ f = assemble f.index group ∧
          ExactTimes f group :=
  ⟨by decide +kernel, (offsets_exact {} .kLidar twoSamples (by decide +kernel)).1⟩

/-! ## Windows -/

/-- No mapped time plus a window used wraps. -/
def NoWrap (taken : List Taken) : Prop :=
  ∀ a ∈ taken, ∀ b ∈ taken, a.t0.toNat + b.window.toNat < 2 ^ 64

theorem NoWrap.mono {taken taken' : List Taken} (h : NoWrap taken') (hsub : taken ⊆ taken') :
    NoWrap taken :=
  fun a ha b hb => h a (hsub ha) b (hsub hb)

/-- The next start on the grid, in natural numbers. -/
theorem toNat_gridStart {start window t : UInt64} (h : start.toNat ≤ t.toNat) :
    (start + window * ((t - start) / window)).toNat =
      start.toNat + window.toNat * ((t.toNat - start.toNat) / window.toNat) := by
  have hle : start ≤ t := UInt64.le_iff_toNat_le.mpr h
  have hlt := t.toNat_lt
  have hdiv := Nat.mul_div_le (t.toNat - start.toNat) window.toNat
  rw [UInt64.toNat_add, UInt64.toNat_mul, UInt64.toNat_div, UInt64.toNat_sub_of_le _ _ hle,
    Nat.mod_eq_of_lt (a := window.toNat * _) (by omega), Nat.mod_eq_of_lt (by omega)]

/-- The frame of a group lies in the window that starts at `windowStart`: not before it,
and not behind it if the time window decided about every packet. -/
structure InWindow (windowStart : UInt64) (group : List Taken) : Prop where
  start : ∀ first ∈ group.head?, windowStart.toNat ≤ first.t0.toNat
  inside : ∀ window, (∀ a ∈ group, a.active = true ∧ a.window = window) →
    ∀ a ∈ group, a.t0.toNat < windowStart.toNat + window.toNat

namespace InWindow

theorem nil (windowStart : UInt64) : InWindow windowStart [] where
  start := by
    intro first mem
    exact absurd mem (by simp)
  inside := by
    intro window _ a mem
    exact absurd mem List.not_mem_nil

variable {windowStart : UInt64} {a : Taken}

/-- A packet alone, in a window that reaches from before it to behind it. -/
theorem singleton (hstart : windowStart.toNat ≤ a.t0.toNat)
    (hinside : a.t0.toNat < windowStart.toNat + a.window.toNat) : InWindow windowStart [a] where
  start := by
    intro first mem
    rwa [← Option.some.inj mem]
  inside := by
    intro window hall b mem
    rw [List.mem_singleton.mp mem, ← (hall a (List.mem_singleton_self a)).2]
    exact hinside

theorem concat {first : Taken} {rest : List Taken} (h : InWindow windowStart (first :: rest))
    (hinside : a.active = true → a.t0.toNat < windowStart.toNat + a.window.toNat) :
    InWindow windowStart (first :: rest ++ [a]) where
  start := by
    intro b mem
    exact h.start b mem
  inside := by
    intro window hall b mem
    obtain mem | mem := List.mem_append.mp mem
    · exact h.inside window (fun c hc => hall c (List.mem_append_left _ hc)) b mem
    · obtain ⟨hactive, hwindow⟩ := hall a (by simp)
      rw [List.mem_singleton.mp mem, ← hwindow]
      exact hinside hactive

/-- **One packet keeps the partial frame in its window.** -/
theorem outcome {start : UInt64} {index : UInt32} {frameChanged : Bool} {group : List Taken}
    {out : Option Frame} (h : InWindow windowStart group)
    (houtcome : Outcome windowStart index frameChanged a group out start)
    (hpos : 0 < a.window.toNat)
    (hwrap : ∀ first ∈ group.head?, first.t0.toNat + a.window.toNat < 2 ^ 64) :
    InWindow start (if out.isSome then [a] else group ++ [a]) := by
  have hself : InWindow a.t0 [a] := .singleton le_rfl (by omega)
  cases houtcome with
  | first => exact hself
  | joined joins inWindow =>
    refine h.concat fun hactive => ?_
    have hstart := h.start _ rfl
    have hadd := hwrap _ rfl
    have hlt := UInt64.lt_iff_toNat_lt.mp (inWindow hactive)
    rwa [UInt64.toNat_add, Nat.mod_eq_of_lt (by omega)] at hlt
  | onGrid joins active past =>
    have hstart := h.start _ rfl
    have hadd := hwrap _ rfl
    have hle := UInt64.le_iff_toNat_le.mp past
    rw [UInt64.toNat_add, Nat.mod_eq_of_lt (by omega)] at hle
    have hgrid : (windowStart + a.window * ((a.t0 - windowStart) / a.window)).toNat =
        windowStart.toNat +
          a.window.toNat * ((a.t0.toNat - windowStart.toNat) / a.window.toNat) :=
      toNat_gridStart (by omega)
    have hdiv := Nat.div_add_mod (a.t0.toNat - windowStart.toNat) a.window.toNat
    have hmod := Nat.mod_lt (a.t0.toNat - windowStart.toNat) hpos
    exact .singleton (by omega) (by omega)
  | offGrid => exact hself

end InWindow

/-- A packet that is not accepted leaves the window alone. -/
theorem push_windowStart_of_not_accepts {s : FrameAssembler} {pkt : DataPacketView}
    {recvTimeNs : UInt64} (h : s.accepts pkt recvTimeNs = false) :
    (s.push pkt recvTimeNs).2.windowStart = s.windowStart := by
  obtain hignored | ⟨hkept, hlate⟩ := not_accepts_cases h
  · rw [push_ignored hignored]
  · rw [push_late hkept hlate]
    rfl

/-- The packets taken only become more. -/
theorem Grouping.taken_subset_step (g : Grouping) (op : Op) : g.taken ⊆ (g.step op).taken := by
  cases op with
  | push pkt recvTimeNs =>
    cases haccepts : g.state.accepts pkt recvTimeNs with
    | true =>
      simp only [step, haccepts, if_true]
      exact List.subset_append_left _ _
    | false =>
      simp only [step, haccepts, Bool.false_eq_true, if_false]
      exact List.Subset.refl _
  | _ => exact List.Subset.refl _

/-- The partial frame stays in its window through every operation. -/
theorem inWindow_step {g : Grouping} (h : Grouped g)
    (hwindow : InWindow g.state.windowStart g.current) (op : Op)
    (hwrap : NoWrap (g.step op).taken) :
    InWindow (g.step op).state.windowStart (g.step op).current := by
  cases op with
  | push pkt recvTimeNs =>
    simp only [Grouping.step] at hwrap ⊢
    cases haccepts : g.state.accepts pkt recvTimeNs with
    | true =>
      rw [haccepts, if_pos rfl] at hwrap
      obtain ⟨houtcome, -, -⟩ := push_effect haccepts h.pending h.current
      refine hwindow.outcome houtcome (window_pos _) fun first mem => ?_
      exact hwrap first (List.mem_append_left _ (h.mem (List.mem_of_mem_head? mem)))
        _ (by simp)
    | false =>
      show InWindow (g.state.push pkt recvTimeNs).2.windowStart g.current
      rwa [push_windowStart_of_not_accepts haccepts]
  | flush =>
    by_cases hnil : g.current = []
    · have hnone : g.state.flush = (none, g.state) := if_pos (h.points_eq_nil_iff.mpr hnil)
      simp only [Grouping.step, Run.step, hnone]
      exact hwindow
    · rw [Grouping.step_flush h.points_eq_nil_iff hnil]
      exact .nil _
  | discard => exact .nil _
  | setPolicy => exact hwindow
  | rebase => exact hwindow

theorem inWindow_exec {g : Grouping} (h : Grouped g)
    (hwindow : InWindow g.state.windowStart g.current) (ops : List Op)
    (hwrap : NoWrap (g.exec ops).taken) :
    InWindow (g.exec ops).state.windowStart (g.exec ops).current := by
  induction ops using List.reverseRecOn with
  | nil => exact hwindow
  | append_singleton ops op ih =>
    have hstep : g.exec (ops ++ [op]) = (g.exec ops).step op := by
      rw [Grouping.exec, List.foldl_append]
      rfl
    rw [hstep] at hwrap ⊢
    exact inWindow_step (h.exec ops)
      (ih (hwrap.mono (Grouping.taken_subset_step _ op))) op hwrap

/-! ## Homogeneous frames -/

/-- A frame made of a group has points, takes its times and types from the first packet,
and every packet agrees with them. -/
structure Homogeneous (f : Frame) (group : List Taken) : Prop where
  points : f.points ≠ []
  first : ∃ first rest, group = first :: rest ∧ f.baseTimeNs = first.t0 ∧
    f.frameCnt = first.pkt.header.frameCnt ∧ f.sourceType = first.pkt.header.dataType ∧
    f.timeType = first.pkt.header.timeType
  packets : ∀ a ∈ group, a.pkt.header.dataType = f.sourceType ∧
    a.pkt.header.timeType = f.timeType ∧ f.baseTimeNs.toNat < a.t0.toNat + a.window.toNat

theorem Gathered.homogeneous {group : List Taken} (h : Gathered group) (hwrap : NoWrap group)
    (hpos : ∀ a ∈ group, 0 < a.window.toNat) (index : UInt32) :
    Homogeneous (assemble index group) group := by
  have hpoints := h.points_ne_nil index
  obtain @⟨first, rest, points, joins⟩ := h
  refine ⟨hpoints, ⟨first, rest, rfl, rfl, rfl, rfl, rfl⟩, ?_⟩
  intro a mem
  obtain rfl | mem' := List.mem_cons.mp mem
  · have hwindow := hpos a mem
    exact ⟨rfl, rfl, by simp only [assemble]; omega⟩
  · obtain ⟨hdata, htime, hback, -⟩ := joins a mem'
    refine ⟨hdata, htime, ?_⟩
    rw [UInt64.lt_iff_toNat_lt, UInt64.toNat_add, Nat.mod_eq_of_lt (hwrap a mem a mem)] at hback
    exact hback

/-- **Every delivered frame is homogeneous and inside its window.**  In every run in which
no mapped time plus a window used wraps:

* every returned frame is made of a group of the packets taken; it has points, its base
  time, frame counter and types are those of its first packet, and every packet has these
  types and lies less than the window in force before the base time;
* a partial frame does not begin before its window, and if the time window, of one length,
  decided about all its packets, they all lie before the end of the window. -/
theorem frames_homogeneous (policy : FramePolicy) (timestamps : TimestampPolicy) (ops : List Op)
    (hwrap : ∀ a ∈ (grouping policy timestamps ops).taken,
      ∀ b ∈ (grouping policy timestamps ops).taken, a.t0.toNat + b.window.toNat < 2 ^ 64) :
    (∀ f ∈ (run policy timestamps ops).returned, ∃ group,
      group ⊆ (grouping policy timestamps ops).taken ∧ f = assemble f.index group ∧
        Homogeneous f group) ∧
    let s := (run policy timestamps ops).state
    let current := (grouping policy timestamps ops).current
    (s.cur.points ≠ [] → current ≠ [] ∧ s.cur = assemble 0 current ∧
      s.windowStart.toNat ≤ s.cur.baseTimeNs.toNat ∧
      ∀ window, (∀ a ∈ current, a.active = true ∧ a.window = window) →
        (∀ a ∈ current, a.t0.toNat < s.windowStart.toNat + window.toNat) ∧
          s.cur.baseTimeNs.toNat < s.windowStart.toNat + window.toNat) := by
  have h := grouped_run policy timestamps ops
  rw [← grouping_toRun]
  constructor
  · intro f mem
    rw [h.returned] at mem
    obtain ⟨group, hgroup, hf⟩ := mem_assembled mem
    obtain ⟨hgathered, hsubset⟩ := h.frames group hgroup
    refine ⟨group, hsubset, hf, ?_⟩
    rw [hf]
    exact hgathered.homogeneous (NoWrap.mono hwrap hsubset)
      (fun a ha => (h.taken a (hsubset ha)).2) _
  · intro s current hpoints
    have hne : current ≠ [] := mt h.points_eq_nil_iff.mpr hpoints
    have hcur : s.cur = assemble 0 current := h.pending.frame hne
    -- the window of the partial frame is an invariant of its own
    have hwindow : InWindow s.windowStart current :=
      inWindow_exec (.fresh policy timestamps) (.nil _) ops hwrap
    obtain ⟨first, rest, hcurrent⟩ := List.exists_cons_of_ne_nil hne
    have hbase : s.cur.baseTimeNs = first.t0 := by
      rw [hcur, hcurrent]
      rfl
    refine ⟨hne, hcur, ?_, fun window hall => ?_⟩
    · rw [hbase]
      exact hwindow.start first (by rw [hcurrent]; rfl)
    · refine ⟨hwindow.inside window hall, ?_⟩
      rw [hbase]
      exact hwindow.inside window hall first (by rw [hcurrent]; exact List.mem_cons_self)

/-- A packet of two samples of a synchronised LiDAR. -/
def syncedPacket (udpCnt : UInt16) (frameCnt : UInt8) (timestampNs : UInt64) : DataPacketView where
  header :=
    { dotNum := 2, timeInterval := 10, udpCnt, frameCnt, timeType := ⟨1⟩, timestampNs }
  data := List.replicate 28 7

/-- The second packet begins a frame. -/
def frameThenPartial : List Op :=
  [.push (syncedPacket 5 1 1000) 0, .push (syncedPacket 6 2 3000) 1]

theorem frames_homogeneous_frameThenPartial :
    (run {} .kLidar frameThenPartial).returned.length = 1 ∧
    (∀ f ∈ (run {} .kLidar frameThenPartial).returned, ∃ group,
      group ⊆ (grouping {} .kLidar frameThenPartial).taken ∧ f = assemble f.index group ∧
        Homogeneous f group) ∧
    let s := (run {} .kLidar frameThenPartial).state
    let current := (grouping {} .kLidar frameThenPartial).current
    s.cur.points.length = 2 ∧ current ≠ [] ∧ s.cur = assemble 0 current ∧
      s.windowStart.toNat ≤ s.cur.baseTimeNs.toNat ∧
      ∀ window, (∀ a ∈ current, a.active = true ∧ a.window = window) →
        (∀ a ∈ current, a.t0.toNat < s.windowStart.toNat + window.toNat) ∧
          s.cur.baseTimeNs.toNat < s.windowStart.toNat + window.toNat := by
  obtain ⟨hreturned, hpartial⟩ := frames_homogeneous {} .kLidar frameThenPartial (by decide +kernel)
  have hpoints : (run {} .kLidar frameThenPartial).state.cur.points.length = 2 := by decide +kernel
  refine ⟨by decide +kernel, hreturned, hpoints, hpartial ?_⟩
  exact List.ne_nil_of_length_pos (hpoints ▸ Nat.two_pos)
end LivoxMid360.FrameAssembler
