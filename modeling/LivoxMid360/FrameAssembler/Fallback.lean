import LivoxMid360.FrameAssembler.TimeWindow
import Mathlib.Order.Bounds.Basic

/-!
# When the fallback comes

In frame-counter mode the assembler falls back to the time window once `frame_cnt` has not
changed for two windows.  Three fields carry this over the packets: `first_time_`,
`frame_cnt_changed_ever_` and `fallback_`, and `set_policy` clears all three.

`Watch` runs an assembler through any operations and writes down what those fields are
about: the packets accepted since the policy was set (`heard`), the `frame_cnt` of the packet
before them, and the value the fallback counter had.  `Watched` connects the two, and every
operation keeps it (`Watched.step`).

`fallback_is_sound` is the result.  The fallback is counted at most once for a policy, by an
accepted packet, and only when no packet has changed `frame_cnt` since the policy was set.
The time of the packet is two windows after the earliest one, as integers, if that end is
below `2 ^ 64`.  The code adds in 64 bits and only checks that the window is positive, so
beyond it the sum wraps and the fallback can come at once: `fallback_at_first_packet` is a
window for which it does.
-/

namespace LivoxMid360.FrameAssembler

/-! ## What the assembler has heard -/

/-- An accepted packet: its mapped time and its `frame_cnt`. -/
structure Heard where
  t0 : UInt64
  frameCnt : UInt8
deriving DecidableEq

/-- A run, and what happened since the policy was set. -/
structure Watch extends Run where
  /-- `frame_cnt` of the packet accepted last before that. -/
  before : Option UInt8 := none
  heard : List Heard := []
  /-- `frame_cnt_fallback` at that time. -/
  counted : ℕ := 0

namespace Watch

/-- The `frame_cnt`s of the packets, with the one to compare the first with. -/
def frameCnts (w : Watch) : List UInt8 :=
  w.before.toList ++ w.heard.map Heard.frameCnt

/-- The mapped times of the packets. -/
def times (w : Watch) : Set ℕ :=
  {t | ∃ a ∈ w.heard, a.t0.toNat = t}

/-- The packet an operation has the assembler accept. -/
def hears (w : Watch) : Op → List Heard
  | .push pkt recvTimeNs =>
    if w.state.accepts pkt recvTimeNs then
      [⟨(w.state.observe pkt.header recvTimeNs).1.t0, pkt.header.frameCnt⟩]
    else []
  | _ => []

def step (w : Watch) (op : Op) : Watch :=
  match op with
  | .setPolicy _ =>
    { toRun := w.toRun.step op
      before := w.frameCnts.getLast?
      counted := w.state.counters.frameCntFallback }
  | op => { w with toRun := w.toRun.step op, heard := w.heard ++ w.hears op }

def exec (w : Watch) (ops : List Op) : Watch :=
  ops.foldl step w

end Watch

/-- A run from a fresh assembler. -/
def watch (policy : FramePolicy) (timestamps : TimestampPolicy) (ops : List Op) : Watch :=
  Watch.exec { state := new policy timestamps } ops

/-- `Device::open` and `set_frame_policy` take windows that are positive. -/
def Op.Valid : Op → Prop
  | .setPolicy policy => 0 < policy.window.toInt
  | _ => True

/-! ## The bookkeeping -/

/-- `first_time_` after a packet is the earliest time so far. -/
theorem trackFallback_firstTime (s : FrameAssembler) (o : Observation) :
    ∃ first, (s.trackFallback o).firstTime = some first ∧
      (s.firstTime = none → first = o.t0) ∧
      ∀ f, s.firstTime = some f → first.toNat = min f.toNat o.t0.toNat := by
  cases hbefore : s.firstTime with
  | none =>
    refine ⟨o.t0, ?_, fun _ => rfl, by simp⟩
    unfold trackFallback
    rw [hbefore]
    dsimp only
    split_ifs <;> rfl
  | some f =>
    refine ⟨if o.t0 < f then o.t0 else f, ?_, by simp, ?_⟩
    · unfold trackFallback
      rw [hbefore]
      dsimp only
      split_ifs <;> rfl
    · rintro _ ⟨⟩
      split_ifs with hlt
      · rw [min_eq_right (UInt64.lt_iff_toNat_lt.mp hlt).le]
      · rw [UInt64.not_lt, UInt64.le_iff_toNat_le] at hlt
        rw [min_eq_left hlt]

/-- The fallback stays as it is, and a change of `frame_cnt` is remembered for as long as it
matters. -/
structure Waits (s s' : FrameAssembler) (o : Observation) : Prop where
  fallback : s'.fallback = s.fallback
  frameCntFallback : s'.counters.frameCntFallback = s.counters.frameCntFallback
  ever : s.policy.mode = .kFrameCounter → s.fallback = false → s'.frameCntChangedEver = false →
    s.frameCntChangedEver = false ∧ o.frameChanged = false

/-- The packet falls back. -/
structure FallsBack (s s' : FrameAssembler) (o : Observation) (first : UInt64) : Prop where
  mode : s.policy.mode = .kFrameCounter
  before : s.fallback = false
  ever : s.frameCntChangedEver = false
  frameChanged : o.frameChanged = false
  late : first + 2 * s.window ≤ o.t0
  fallback : s'.fallback = true
  frameCntFallback : s'.counters.frameCntFallback = s.counters.frameCntFallback + 1

/-- The comparison is one of integers, if the sum is below `2 ^ 64`. -/
theorem FallsBack.late_of_lt {s s' : FrameAssembler} {o : Observation} {first : UInt64}
    (h : FallsBack s s' o first) (hpos : 0 < s.policy.window.toInt)
    (hrange : first.toNat + 2 * s.policy.window.toInt < 2 ^ 64) :
    first.toNat + 2 * s.policy.window.toInt ≤ o.t0.toNat := by
  have hwindow := s.toNat_window
  have hlate := h.late
  rw [max_eq_left (by omega)] at hwindow
  rw [UInt64.le_iff_toNat_le, toNat_add_two_mul rfl (by omega)] at hlate
  omega

/-- **What the bookkeeping can do** with a packet. -/
theorem trackFallback_cases (s : FrameAssembler) (o : Observation) {first : UInt64}
    (hfirst : (s.trackFallback o).firstTime = some first) :
    Waits s (s.trackFallback o) o ∨ FallsBack s (s.trackFallback o) o first := by
  revert hfirst
  unfold trackFallback
  dsimp only
  split_ifs with hmode hchanged hlate
  · intro _
    exact .inl ⟨rfl, rfl, fun _ _ hever => absurd hever (by simp)⟩
  · intro hfirst
    cases hfirst
    exact .inr ⟨hmode.1, hmode.2, hlate.1, Bool.eq_false_iff.mpr hchanged, hlate.2, rfl, rfl⟩
  · intro _
    exact .inl ⟨rfl, rfl, fun _ _ hever => ⟨hever, Bool.eq_false_iff.mpr hchanged⟩⟩
  · intro _
    exact .inl ⟨rfl, rfl, fun h₁ h₂ => absurd ⟨h₁, h₂⟩ hmode⟩

/-! ## The invariant -/

/-- The fields of the assembler say what has been heard. -/
structure Watched (w : Watch) : Prop where
  window : 0 < w.state.policy.window.toInt
  havePrev : w.state.havePrev = w.frameCnts.getLast?.isSome
  prevFrameCnt : ∀ c ∈ w.frameCnts.getLast?, w.state.prevFrameCnt = c
  firstTime_none : w.state.firstTime = none → w.heard = []
  firstTime : ∀ first, w.state.firstTime = some first → IsLeast w.times first.toNat
  ever : w.state.policy.mode = .kFrameCounter → w.state.fallback = false →
    w.state.frameCntChangedEver = false → w.frameCnts.IsChain (· = ·)
  counted : w.state.counters.frameCntFallback = w.counted + if w.state.fallback then 1 else 0

theorem watched_new (policy : FramePolicy) (timestamps : TimestampPolicy)
    (hpolicy : 0 < policy.window.toInt) : Watched { state := new policy timestamps } where
  window := hpolicy
  havePrev := rfl
  prevFrameCnt := fun c mem => absurd mem (by simp [Watch.frameCnts])
  firstTime_none := fun _ => rfl
  firstTime := fun first h => absurd h (by simp [new])
  ever := fun _ _ _ => List.isChain_nil
  counted := rfl

/-- `s'` has the fields of `s` that the fallback is about. -/
structure SameFallback (s s' : FrameAssembler) : Prop where
  policy : s'.policy = s.policy
  havePrev : s'.havePrev = s.havePrev
  prevFrameCnt : s'.prevFrameCnt = s.prevFrameCnt
  firstTime : s'.firstTime = s.firstTime
  fallback : s'.fallback = s.fallback
  frameCntChangedEver : s'.frameCntChangedEver = s.frameCntChangedEver
  frameCntFallback : s'.counters.frameCntFallback = s.counters.frameCntFallback

/-- So have the assemblers after the operations that take no packet. -/
theorem sameFallback_flush (s : FrameAssembler) : SameFallback s s.flush.2 := by
  unfold flush
  split_ifs <;> exact ⟨rfl, rfl, rfl, rfl, rfl, rfl, rfl⟩

/-- A packet that is not accepted is counted, and no more. -/
theorem sameFallback_push {s : FrameAssembler} {pkt : DataPacketView} {recvTimeNs : UInt64}
    (h : s.accepts pkt recvTimeNs = false) : SameFallback s (s.push pkt recvTimeNs).2 := by
  obtain hignored | ⟨hpoints, hlate⟩ := not_accepts_cases h
  · rw [push_ignored hignored]
    exact ⟨rfl, rfl, rfl, rfl, rfl, rfl, rfl⟩
  · rw [push_late hpoints hlate]
    exact ⟨rfl, rfl, rfl, rfl, rfl, rfl, rfl⟩

section Step

variable {w : Watch} {pkt : DataPacketView} {recvTimeNs : UInt64}

/-- An operation that touches none of the fields. -/
theorem Watched.kept (h : Watched w) {run : Run} (hsame : SameFallback w.state run.state) :
    Watched { w with toRun := run } := by
  constructor
  · show 0 < run.state.policy.window.toInt
    rw [hsame.policy]
    exact h.window
  · exact hsame.havePrev.trans h.havePrev
  · intro c mem
    exact hsame.prevFrameCnt.trans (h.prevFrameCnt c mem)
  · intro hnone
    exact h.firstTime_none (hsame.firstTime.symm.trans hnone)
  · intro first hfirst
    exact h.firstTime first (hsame.firstTime.symm.trans hfirst)
  · intro hmode hfallback hever
    refine h.ever ?_ (hsame.fallback.symm.trans hfallback)
      (hsame.frameCntChangedEver.symm.trans hever)
    rw [← hsame.policy]
    exact hmode
  · show run.state.counters.frameCntFallback = w.counted + if run.state.fallback then 1 else 0
    rw [hsame.frameCntFallback, hsame.fallback]
    exact h.counted

theorem Watch.step_push (haccepts : w.state.accepts pkt recvTimeNs = true) :
    w.step (.push pkt recvTimeNs) =
      { w with
        toRun := w.toRun.step (.push pkt recvTimeNs)
        heard := w.heard ++
          [⟨(w.state.observe pkt.header recvTimeNs).1.t0, pkt.header.frameCnt⟩] } := by
  simp only [Watch.step, Watch.hears, if_pos haccepts]

/-- An operation that has no packet accepted. -/
theorem Watch.step_silent {op : Op} (hop : ∀ policy, op ≠ .setPolicy policy)
    (hsilent : w.hears op = []) : w.step op = { w with toRun := w.toRun.step op } := by
  cases op with
  | setPolicy policy => exact absurd rfl (hop policy)
  | _ => simp only [Watch.step, hsilent, List.append_nil]

theorem Watch.frameCnts_push (haccepts : w.state.accepts pkt recvTimeNs = true) :
    (w.step (.push pkt recvTimeNs)).frameCnts = w.frameCnts ++ [pkt.header.frameCnt] := by
  rw [step_push haccepts]
  simp [frameCnts]

theorem Watch.times_push (haccepts : w.state.accepts pkt recvTimeNs = true) :
    (w.step (.push pkt recvTimeNs)).times =
      insert (w.state.observe pkt.header recvTimeNs).1.t0.toNat w.times := by
  rw [step_push haccepts]
  ext t
  simp only [times, List.mem_append, List.mem_singleton, Set.mem_ofPred_eq, Set.mem_insert_iff]
  constructor
  · rintro ⟨a, mem | rfl, rfl⟩
    · exact .inr ⟨a, mem, rfl⟩
    · exact .inl rfl
  · rintro (rfl | ⟨a, mem, rfl⟩)
    · exact ⟨_, .inr rfl, rfl⟩
    · exact ⟨a, .inl mem, rfl⟩

/-- A packet with the `frame_cnt` of the one before it continues a stretch without a
change. -/
theorem Watched.isChain_concat (h : Watched w) (hchain : w.frameCnts.IsChain (· = ·))
    (hsame : (w.state.observe pkt.header recvTimeNs).1.frameChanged = false) :
    (w.frameCnts ++ [pkt.header.frameCnt]).IsChain (· = ·) := by
  refine List.isChain_append.mpr ⟨hchain, List.isChain_singleton _, ?_⟩
  intro c mem c' mem'
  obtain rfl : pkt.header.frameCnt = c' := Option.some.inj mem'
  have hprev : w.state.havePrev = true := by
    rw [h.havePrev, Option.isSome_iff_exists]
    exact ⟨c, mem⟩
  have hchanged : (w.state.havePrev && pkt.header.frameCnt != w.state.prevFrameCnt) = false := hsame
  rw [hprev, Bool.true_and, bne_eq_false_iff_eq, h.prevFrameCnt c mem] at hchanged
  exact hchanged.symm

/-- **What an accepted packet does.**  `first_time_` is the earliest time, and the fallback
is that of the bookkeeping. -/
theorem Watched.push_cases (h : Watched w) (haccepts : w.state.accepts pkt recvTimeNs = true) :
    ∃ first, (w.step (.push pkt recvTimeNs)).state.firstTime = some first ∧
      IsLeast (w.step (.push pkt recvTimeNs)).times first.toNat ∧
      (Waits w.state (w.step (.push pkt recvTimeNs)).state
          (w.state.observe pkt.header recvTimeNs).1 ∨
        FallsBack w.state (w.step (.push pkt recvTimeNs)).state
          (w.state.observe pkt.header recvTimeNs).1 first) := by
  have hstate : (w.step (.push pkt recvTimeNs)).state = (w.state.push pkt recvTimeNs).2 := rfl
  have htracks := push_tracks haccepts
  obtain ⟨first, hfirst, hnone, hsome⟩ := trackFallback_firstTime
    (w.state.observe pkt.header recvTimeNs).2 (w.state.observe pkt.header recvTimeNs).1
  rw [hstate, Watch.times_push haccepts]
  refine ⟨first, htracks.firstTime.trans hfirst, ?_, ?_⟩
  · cases hbefore : w.state.firstTime with
    | none =>
      have hempty : w.times = ∅ := by
        rw [Watch.times, h.firstTime_none hbefore]
        simp
      rw [hnone hbefore, hempty, insert_empty_eq]
      exact isLeast_singleton
    | some f =>
      rw [hsome f hbefore, min_comm]
      exact (h.firstTime f hbefore).insert _
  · obtain ⟨hfallback, hcounter, hever⟩ | hfalls := trackFallback_cases _ _ hfirst
    · left
      refine ⟨htracks.fallback.trans hfallback, htracks.frameCntFallback.trans hcounter, ?_⟩
      intro hmode hno hafter
      exact hever hmode hno (htracks.frameCntChangedEver.symm.trans hafter)
    · right
      obtain ⟨hmode, hno, hever, hsame, hlate, hfallback, hcounter⟩ := hfalls
      exact ⟨hmode, hno, hever, hsame, hlate, htracks.fallback.trans hfallback,
        htracks.frameCntFallback.trans hcounter⟩

theorem Watched.push (h : Watched w) (haccepts : w.state.accepts pkt recvTimeNs = true) :
    Watched (w.step (.push pkt recvTimeNs)) := by
  have hstate : (w.step (.push pkt recvTimeNs)).state = (w.state.push pkt recvTimeNs).2 := rfl
  have hpolicy : (w.step (.push pkt recvTimeNs)).state.policy = w.state.policy := by
    rw [hstate, (push_tracks haccepts).policy, (trackFallback_window _ _).2.2]
    rfl
  have htracking := (w.state.observe pkt.header recvTimeNs).2.accept_tracking
    (w.state.observe pkt.header recvTimeNs).1 pkt
  rw [← push_accepted haccepts] at htracking
  obtain ⟨first, hfirst, hleast, hcases⟩ := h.push_cases haccepts
  constructor
  · rw [hpolicy]
    exact h.window
  · rw [hstate, htracking.2.2.1, Watch.frameCnts_push haccepts, List.getLast?_concat]
    rfl
  · rw [hstate, htracking.2.2.2, Watch.frameCnts_push haccepts, List.getLast?_concat]
    exact fun c mem => Option.some.inj mem
  · rw [hfirst]
    exact fun hnone => absurd hnone (by simp)
  · rw [hfirst]
    rintro f ⟨⟩
    exact hleast
  · intro hmode hfallback hever
    rw [hpolicy] at hmode
    rw [Watch.frameCnts_push haccepts]
    rcases hcases with hwaits | hfalls
    · rw [hwaits.fallback] at hfallback
      obtain ⟨hbefore, hsame⟩ := hwaits.ever hmode hfallback hever
      exact h.isChain_concat (h.ever hmode hfallback hbefore) hsame
    · -- after the fallback the flag is not looked at again before the next `set_policy`
      rw [hfalls.fallback] at hfallback
      exact absurd hfallback (by decide)
  · rw [Watch.step_push haccepts] at hcases ⊢
    dsimp only at hcases ⊢
    rcases hcases with hwaits | hfalls
    · rw [hwaits.frameCntFallback, hwaits.fallback]
      exact h.counted
    · rw [hfalls.frameCntFallback, hfalls.fallback, h.counted, hfalls.before]
      rfl

/-- `set_policy` clears what has been heard. -/
theorem Watched.setPolicy (h : Watched w) {policy : FramePolicy}
    (hpolicy : 0 < policy.window.toInt) : Watched (w.step (.setPolicy policy)) := by
  have hcnts : (w.step (.setPolicy policy)).frameCnts = w.frameCnts.getLast?.toList := by
    simp [Watch.step, Watch.frameCnts]
  have hlast : (w.step (.setPolicy policy)).frameCnts.getLast? = w.frameCnts.getLast? := by
    rw [hcnts]
    cases w.frameCnts.getLast? <;> rfl
  constructor
  · exact hpolicy
  · rw [hlast]
    exact h.havePrev
  · rw [hlast]
    exact h.prevFrameCnt
  · exact fun _ => rfl
  · intro first hfirst
    exact absurd hfirst (by simp [Watch.step, Run.step, FrameAssembler.setPolicy])
  · intro _ _ _
    rw [hcnts]
    cases w.frameCnts.getLast? with
    | none => exact List.isChain_nil
    | some c => exact List.isChain_singleton c
  · rfl

/-- **Every operation keeps the invariant.** -/
theorem Watched.step (h : Watched w) {op : Op} (hvalid : op.Valid) : Watched (w.step op) := by
  cases op with
  | push pkt recvTimeNs =>
    cases haccepts : w.state.accepts pkt recvTimeNs with
    | true => exact h.push haccepts
    | false =>
      rw [Watch.step_silent (by simp) (by simp [Watch.hears, haccepts])]
      exact h.kept (sameFallback_push haccepts)
  | flush =>
    rw [Watch.step_silent (by simp) rfl]
    exact h.kept (sameFallback_flush w.state)
  | setPolicy => exact h.setPolicy hvalid
  | rebase | discard =>
    rw [Watch.step_silent (by simp) rfl]
    exact h.kept ⟨rfl, rfl, rfl, rfl, rfl, rfl, rfl⟩

end Step

theorem Watched.exec {w : Watch} (h : Watched w) {ops : List Op} (hvalid : ∀ op ∈ ops, op.Valid) :
    Watched (w.exec ops) := by
  induction ops generalizing w with
  | nil => exact h
  | cons op ops ih =>
    rw [List.forall_mem_cons] at hvalid
    exact ih (h.step hvalid.1) hvalid.2

/-! ## The fallback -/

/-- **The fallback is sound.**  In every run under positive windows the fallback is counted
at most once since the policy was set.  An operation that counts it is the push of an
accepted packet in frame-counter mode; it counts one.  No packet accepted since the policy
was set, this one included, has changed `frame_cnt`.  And the time of the packet is two
windows or more after the earliest of their times, as integers, if the end of these two
windows is a 64-bit time. -/
theorem fallback_is_sound (policy : FramePolicy) (timestamps : TimestampPolicy) (ops : List Op)
    (hpolicy : 0 < policy.window.toInt) (hvalid : ∀ op ∈ ops, op.Valid) :
    let w := watch policy timestamps ops
    (w.counted ≤ w.state.counters.frameCntFallback ∧
      w.state.counters.frameCntFallback ≤ w.counted + 1) ∧
    ∀ op, (w.step op).state.counters.frameCntFallback ≠ w.state.counters.frameCntFallback →
      (w.step op).state.counters.frameCntFallback = w.state.counters.frameCntFallback + 1 ∧
      w.state.policy.mode = .kFrameCounter ∧
      (w.step op).frameCnts.IsChain (· = ·) ∧
      ∃ pkt recvTimeNs, op = .push pkt recvTimeNs ∧ w.state.accepts pkt recvTimeNs = true ∧
        ∀ m, IsLeast (w.step op).times m → m + 2 * w.state.policy.window.toInt < 2 ^ 64 →
          m + 2 * w.state.policy.window.toInt ≤
            (w.state.observe pkt.header recvTimeNs).1.t0.toNat := by
  intro w
  have h : Watched w := (watched_new policy timestamps hpolicy).exec hvalid
  refine ⟨?_, ?_⟩
  · have hcounted := h.counted
    split_ifs at hcounted <;> omega
  · intro op hcounts
    cases op with
    | flush => exact absurd (sameFallback_flush w.state).frameCntFallback hcounts
    | setPolicy => exact absurd rfl hcounts
    | rebase => exact absurd rfl hcounts
    | discard => exact absurd rfl hcounts
    | push pkt recvTimeNs =>
      cases haccepts : w.state.accepts pkt recvTimeNs with
      | false => exact absurd (sameFallback_push haccepts).frameCntFallback hcounts
      -- only the push of an accepted packet can count, and only when it falls back
      | true =>
        obtain ⟨first, -, hleast, hwaits | hfalls⟩ := h.push_cases haccepts
        · exact absurd hwaits.frameCntFallback hcounts
        · have hchain := h.ever hfalls.mode hfalls.before hfalls.ever
          refine ⟨hfalls.frameCntFallback, hfalls.mode, ?_, pkt, recvTimeNs, rfl, haccepts, ?_⟩
          · rw [Watch.frameCnts_push haccepts]
            exact h.isChain_concat hchain hfalls.frameChanged
          · intro m hm hrange
            obtain rfl : m = first.toNat := hm.unique hleast
            exact hfalls.late_of_lt h.window hrange

/-- Two packets, less than two microseconds apart, under a window of one. -/
def twoPackets : List Op :=
  pushAll [(packetAt 0, 0), (packetAt 1500, 0)]

def twoHeard : Watch :=
  watch { window := 1000 } .kLidar twoPackets

/-- A packet that is late enough falls back. -/
theorem fallback_is_sound_third_packet :
    (twoHeard.step (.push (packetAt 2500) 0)).state.counters.frameCntFallback = 1 ∧
      ∃ pkt recvTimeNs, Op.push (packetAt 2500) 0 = .push pkt recvTimeNs ∧
        (0 : ℕ) + 2 * (1000 : Int64).toInt ≤
          (twoHeard.state.observe pkt.header recvTimeNs).1.t0.toNat := by
  have hvalid : ∀ op ∈ twoPackets, op.Valid := by
    simp [twoPackets, pushAll, Op.Valid]
  have hcounts : (twoHeard.step (.push (packetAt 2500) 0)).state.counters.frameCntFallback = 1 ∧
      twoHeard.state.counters.frameCntFallback = 0 := by
    decide +kernel
  have hheard : (twoHeard.step (.push (packetAt 2500) 0)).heard =
      [⟨0, 0⟩, ⟨1500, 0⟩, ⟨2500, 0⟩] := by
    decide +kernel
  have hleast : IsLeast (twoHeard.step (.push (packetAt 2500) 0)).times 0 := by
    rw [Watch.times, hheard]
    exact ⟨⟨⟨0, 0⟩, by simp, rfl⟩, fun t _ => Nat.zero_le t⟩
  have hpolicy : twoHeard.state.policy.window = 1000 := by decide +kernel
  have hnot : (twoHeard.step (.push (packetAt 2500) 0)).state.counters.frameCntFallback ≠
      twoHeard.state.counters.frameCntFallback := by
    rw [hcounts.1, hcounts.2]
    decide
  obtain ⟨-, -, -, pkt, recvTimeNs, hop, -, hlate⟩ :=
    (fallback_is_sound { window := 1000 } .kLidar twoPackets (by decide) hvalid).2 _ hnot
  have htwice : ((0 : ℕ) : ℤ) + 2 * twoHeard.state.policy.window.toInt < 2 ^ 64 := by
    rw [hpolicy]
    decide
  refine ⟨hcounts.1, pkt, recvTimeNs, hop, ?_⟩
  rw [← hpolicy]
  exact hlate 0 hleast htwice

/-- The longest window: `nanoseconds::max()`. -/
def longestWindow : FramePolicy where
  window := 0x7FFFFFFFFFFFFFFF

/-- Two of the longest windows after the second nanosecond is time zero in 64 bits: the first
packet is taken to be late enough for the fallback. -/
theorem fallback_at_first_packet :
    0 < longestWindow.window.toInt ∧
      (watch longestWindow .kLidar [.push (packetAt 2) 0]).state.counters.frameCntFallback = 1 ∧
      (watch longestWindow .kLidar [.push (packetAt 2) 0]).heard = [⟨2, 0⟩] ∧
      ¬2 + 2 * longestWindow.window.toInt ≤ 2 := by
  decide +kernel

end LivoxMid360.FrameAssembler
