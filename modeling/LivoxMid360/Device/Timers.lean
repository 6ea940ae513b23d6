import LivoxMid360.Device.Stats
import LivoxMid360.Lib.SteadyClock

/-!
# The timers of the receive thread

`tick` serves three timers: the push timeout, the idle close of a frame and the period of the
`kStats` events.  It returns when it is to be called again, and the receive loop polls until
the earliest time that a device returned, 100 ms at most.

`TimedReceiver` is the receive thread of a device with the third timer, and its `tick`
returns the time.  A sum of clock values that overflows has no value (`SteadyClock.add`), so
`tick` is `none` where a deadline is not a time point.

* `tick_receiver`: on what `Receiver` knows, this is its `tick`.
* `ticked_of_tick` says what a tick leaves armed and what it returns.
* `tick_reports_the_earliest_timer`: the time returned is no later than any timer that is
  still armed, **unless the deadline of the idle close stands in place of an earlier push
  timeout**.  `tick` assigns it where the other timers take the minimum
  (`PushHidden`, and `lateTick` is such a state).  Without it the receive loop waits for the
  minimum of all timers and 100 ms.
-/

namespace LivoxMid360

open DataPath (Delivery unsyncedPacket)

/-- The receive thread of a device, with the timer of its `kStats` events. -/
structure TimedReceiver extends Receiver where
  /-- `options.stats_interval`, in nanoseconds; zero is off. -/
  statsInterval : Int64 := 0
  nextStats : Int64 := 0
  /-- There is a callback for events. -/
  rxEventCb : Bool := false

/-- What one call of `tick` returns and does. -/
structure Ticked where
  next : Option Int64
  delivered : List Delivery
  /-- The `kStats` event, if there is one. -/
  stats : Option DeviceStats
  device : TimedReceiver

namespace TimedReceiver

/-! ## `tick` -/

variable (d : TimedReceiver)

/-- `connection_tick`. -/
def connectionTick (now : Int64) : Option (Option Int64 × TimedReceiver) :=
  if d.connected then
    (SteadyClock.add d.push.lastPushSteadyNs d.pushTimeout).map fun deadline =>
      if now ≥ deadline then (none, { d with toReceiver := d.declareDisconnected })
      else (some deadline, d)
  else some (none, d)

def consumeRequests : TimedReceiver :=
  { d with toReceiver := d.toReceiver.consumeRequests }

/-- The idle close of a frame.  Its deadline is assigned to `next`. -/
def idleTick (now : Int64) (next : Option Int64) :
    Option (Option Int64 × List Delivery × TimedReceiver) :=
  if d.assembler.cur.points ≠ [] then
    (SteadyClock.add d.lastPointPacket d.idleWindow).map fun deadline =>
      if now ≥ deadline then
        (next, d.closeIdleFrame.1, { d with toReceiver := d.closeIdleFrame.2 })
      -- here a push timeout that comes earlier is lost
      else (some deadline, [], d)
  else some (next, [], d)

/-- `next ? std::min(*next, next_stats) : next_stats`. -/
def earlier (next : Option Int64) (nextStats : Int64) : Int64 :=
  match next with
  | none => nextStats
  | some next => if nextStats < next then nextStats else next

/-- The period of the `kStats` events. -/
def statsTick (now : Int64) (next : Option Int64) :
    Option (Option Int64 × Option DeviceStats × TimedReceiver) :=
  if hpos : 0 < d.statsInterval then
    if now ≥ d.nextStats then
      -- skip missed periods rather than bursting
      (SteadyClock.skip d.statsInterval hpos now d.nextStats).map fun nextStats =>
        (some (earlier next nextStats), if d.rxEventCb then some d.snapshot else none,
          { d with nextStats })
    else some (some (earlier next d.nextStats), none, d)
  else some (next, none, d)

def tick (now : Int64) : Option Ticked := do
  let (next, d) ← d.connectionTick now
  let (next, delivered, d) ← d.consumeRequests.idleTick now next
  let (next, stats, device) ← d.statsTick now next
  return { next, delivered, stats, device }

/-! ## The receive loop -/

/-- 100 ms. -/
def kMaxPoll : Int64 := 100000000

/-- `if (next) deadline = std::min(deadline, *next)`. -/
def sooner (deadline : Int64) : Option Int64 → Int64
  | none => deadline
  | some next => if next < deadline then next else deadline

/-- The devices of the snapshot in turn. -/
def tickAll (now : Int64) : Int64 → List TimedReceiver → Option (Int64 × List TimedReceiver)
  | deadline, [] => some (deadline, [])
  | deadline, d :: ds => do
      let r ← d.tick now
      let (deadline, ds) ← tickAll now (sooner deadline r.next) ds
      return (deadline, r.device :: ds)

/-- `deadline` of `Context::Impl::run`, and the devices after their ticks. -/
def pollDeadline (now : Int64) (ds : List TimedReceiver) : Option (Int64 × List TimedReceiver) := do
  tickAll now (← SteadyClock.add now kMaxPoll) ds

/-- `timeout` in milliseconds, the clock being read once more. -/
def pollTimeout (deadline now : Int64) : Option Int64 := do
  let left ← SteadyClock.sub (if deadline < now then now else deadline) now
  -- 999 µs more, to round up to milliseconds
  let left ← SteadyClock.add left 999000
  return left / 1000000

/-! ## The timers -/

/-- When the next push is overdue. -/
def pushDeadline : ℤ :=
  d.push.lastPushSteadyNs.toInt + d.pushTimeout.toInt

/-- When the frame in progress is closed. -/
def idleDeadline : ℤ :=
  d.lastPointPacket.toInt + d.idleWindow.toInt

/-- The same, with a new policy that is still to be taken over. -/
def nextIdleDeadline : ℤ :=
  d.lastPointPacket.toInt + d.nextIdleWindow.toInt

/-- The times of the `kStats` events behind `now`. -/
def statsTimes (now : Int64) : Set ℤ :=
  SteadyClock.upcoming d.nextStats.toInt d.statsInterval.toInt now.toInt

/-- A timer of the device and its time. -/
inductive Armed (d : TimedReceiver) : ℤ → Prop
  | push (h : d.connected = true) : Armed d d.pushDeadline
  | idle (h : d.assembler.cur.points ≠ []) : Armed d d.idleDeadline
  | stats (h : 0 < d.statsInterval) : Armed d d.nextStats.toInt

/-- **The tick reports the earliest timer**: it has a value, and returns a time that is no
later than any timer it leaves armed. -/
def Reports (now : Int64) : Prop :=
  ∃ r, d.tick now = some r ∧ ∀ t, Armed r.device t → ∃ n, r.next = some n ∧ n.toInt ≤ t

/-! ## When it does -/

/-- The push timeout is still to come. -/
def PushPending (now : Int64) : Prop :=
  d.connected = true ∧ now.toInt < d.pushDeadline

/-- There is a frame in progress that no request throws away; a connection that is lost now
requests that. -/
def KeepsFrame (now : Int64) : Prop :=
  d.assembler.cur.points ≠ [] ∧ d.discardRequested = false ∧
    (d.connected = true → now.toInt < d.pushDeadline)

/-- The deadlines that the tick computes are time points. -/
structure Representable (d : TimedReceiver) (now : Int64) : Prop where
  push : d.connected = true → SteadyClock.Fits d.pushDeadline
  idle : d.KeepsFrame now → SteadyClock.Fits d.nextIdleDeadline
  stats : 0 < d.statsInterval → ∃ t ∈ d.statsTimes now, SteadyClock.Fits t

/-- The idle close is due after the push timeout, and nothing else is due before that. -/
structure PushHidden (d : TimedReceiver) (now : Int64) : Prop where
  pending : d.PushPending now
  frame : d.KeepsFrame now
  later : d.pushDeadline < d.nextIdleDeadline
  stats : 0 < d.statsInterval → ∀ t ∈ d.statsTimes now, d.pushDeadline < t

/-- The idle close is still to come. -/
def IdlePending (now : Int64) : Prop :=
  d.KeepsFrame now ∧ now.toInt < d.nextIdleDeadline

/-! ## The parts of a tick -/

section Parts

variable {d d' : TimedReceiver} {now : Int64} {next next' : Option Int64}

/-- The device and `next` once the requests have been consumed. -/
structure Asked (d : TimedReceiver) (now : Int64) (next : Option Int64) (d' : TimedReceiver) :
    Prop where
  connected : d'.connected = true ↔ d.PushPending now
  pushDeadline : d'.pushDeadline = d.pushDeadline
  frame : d'.assembler.cur.points ≠ [] ↔ d.KeepsFrame now
  idleDeadline : d'.idleDeadline = d.nextIdleDeadline
  statsInterval : d'.statsInterval = d.statsInterval
  nextStats : d'.nextStats = d.nextStats
  push : d.PushPending now → ∃ n, next = some n ∧ n.toInt = d.pushDeadline
  none : ¬d.PushPending now → next = none

/-- Only a discard empties the frame in progress. -/
theorem consumeRequests_frame (d : TimedReceiver) :
    d.consumeRequests.assembler.cur.points ≠ [] ↔
      d.assembler.cur.points ≠ [] ∧ d.discardRequested = false := by
  show d.toDataPath.consumeRequests.assembler.cur.points ≠ [] ↔ _
  rcases d.toDataPath.consumeRequests_cases with ⟨hkept, hcur, -⟩ | ⟨hgone, hempty, -⟩
  · rw [hcur]
    exact ⟨fun h => ⟨h, hkept⟩, fun h => h.1⟩
  · rw [hempty]
    exact ⟨fun h => absurd rfl h, fun h => absurd (h.2.symm.trans hgone) (by simp)⟩

/-- A connection that is not lost now: nothing but the requests changes the device. -/
theorem asked_of_not_due (hnot : d.connected = true → now.toInt < d.pushDeadline)
    (hpush : d.PushPending now → ∃ n, next = some n ∧ n.toInt = d.pushDeadline)
    (hnone : ¬d.PushPending now → next = none) : Asked d now next d.consumeRequests where
  connected := ⟨fun hconnected => ⟨hconnected, hnot hconnected⟩, fun hpending => hpending.1⟩
  pushDeadline := rfl
  frame := by
    rw [consumeRequests_frame]
    exact ⟨fun h => ⟨h.1, h.2, hnot⟩, fun h => ⟨h.1, h.2.1⟩⟩
  idleDeadline := rfl
  statsInterval := rfl
  nextStats := rfl
  push := hpush
  none := hnone

/-- The push is overdue: the connection is lost, and the frame with it. -/
theorem asked_of_due (hconnected : d.connected = true) (hdue : d.pushDeadline ≤ now.toInt) :
    Asked d now none
      (consumeRequests { d with toReceiver := d.toReceiver.declareDisconnected }) := by
  have hlost : d.toReceiver.declareDisconnected =
      { d.toReceiver with connected := false, discardRequested := true } := if_pos hconnected
  have hnot : ¬d.PushPending now := fun hpending => absurd hpending.2 (Int.not_lt.mpr hdue)
  rw [hlost]
  refine ⟨⟨fun h => absurd h (by simp [consumeRequests, Receiver.consumeRequests]),
    fun h => absurd h hnot⟩, rfl, ?_, rfl, rfl, rfl, fun h => absurd h hnot, fun _ => rfl⟩
  rw [consumeRequests_frame]
  refine ⟨fun h => absurd h.2 (by simp), fun h => ?_⟩
  exact absurd (h.2.2 hconnected) (Int.not_lt.mpr hdue)

theorem asked_of_connectionTick (h : d.connectionTick now = some (next, d')) :
    Asked d now next d'.consumeRequests := by
  unfold connectionTick at h
  split_ifs at h with hconnected
  · obtain ⟨deadline, hsum, hbranch⟩ := Option.map_eq_some_iff.mp h
    have hexact : deadline.toInt = d.pushDeadline := SteadyClock.add_eq_some_iff.mp hsum
    split_ifs at hbranch with hdue
    · cases hbranch
      exact asked_of_due hconnected (hexact ▸ Int64.le_iff_toInt_le.mp hdue)
    · cases hbranch
      have hlater : now.toInt < d.pushDeadline := by
        rw [← hexact]
        exact Int.not_le.mp fun hle => hdue (Int64.le_iff_toInt_le.mpr hle)
      exact asked_of_not_due (fun _ => hlater) (fun _ => ⟨deadline, rfl, hexact⟩)
        fun hnot => absurd ⟨hconnected, hlater⟩ hnot
  · cases h
    exact asked_of_not_due (fun hup => absurd hup hconnected)
      (fun hpending => absurd hpending.1 hconnected) fun _ => rfl

/-- `connection_tick` has a value if the deadline of a connected device is a time point. -/
theorem exists_connectionTick_iff :
    (∃ next d', d.connectionTick now = some (next, d')) ↔
      (d.connected = true → SteadyClock.Fits d.pushDeadline) := by
  unfold connectionTick
  split_ifs with hconnected
  · rw [pushDeadline, ← SteadyClock.exists_add_iff]
    constructor
    · rintro ⟨next, d', h⟩ -
      obtain ⟨deadline, hsum, -⟩ := Option.map_eq_some_iff.mp h
      exact ⟨deadline, hsum⟩
    · intro h
      obtain ⟨deadline, hsum⟩ := h hconnected
      exact ⟨_, _, by rw [hsum]; rfl⟩
  · exact ⟨fun _ hup => absurd hup hconnected, fun _ => ⟨none, d, rfl⟩⟩

/-- The device and `next` before the last of the timers. -/
structure Served (d : TimedReceiver) (now : Int64) (next : Option Int64) (d' : TimedReceiver) :
    Prop where
  connected : d'.connected = true ↔ d.PushPending now
  pushDeadline : d'.pushDeadline = d.pushDeadline
  frame : d'.assembler.cur.points ≠ [] ↔ d.IdlePending now
  idleDeadline : d'.idleDeadline = d.nextIdleDeadline
  statsInterval : d'.statsInterval = d.statsInterval
  nextStats : d'.nextStats = d.nextStats
  /-- The idle close comes before a push timeout, whichever is earlier. -/
  idle : d.IdlePending now → ∃ n, next = some n ∧ n.toInt = d.nextIdleDeadline
  push : ¬d.IdlePending now → d.PushPending now → ∃ n, next = some n ∧ n.toInt = d.pushDeadline
  none : ¬d.IdlePending now → ¬d.PushPending now → next = none

variable {d₁ : TimedReceiver} {out : List Delivery}

theorem served_of_idleTick (ha : Asked d now next d₁)
    (h : d₁.idleTick now next = some (next', out, d')) : Served d now next' d' := by
  unfold idleTick at h
  split_ifs at h with hframe
  · obtain ⟨deadline, hsum, hbranch⟩ := Option.map_eq_some_iff.mp h
    have hexact : deadline.toInt = d.nextIdleDeadline :=
      (SteadyClock.add_eq_some_iff.mp hsum).trans ha.idleDeadline
    split_ifs at hbranch with hdue
    · -- the frame is closed, and `next` stays as it was
      obtain ⟨rfl, hrest⟩ := Prod.mk.inj hbranch
      cases hrest
      have hnot : ¬d.IdlePending now := fun hpending =>
        absurd (hexact ▸ Int64.le_iff_toInt_le.mp hdue) (Int.not_le.mpr hpending.2)
      have hclosed : d₁.toReceiver.closeIdleFrame.2.assembler.cur.points = [] := by
        simp [Receiver.closeIdleFrame, FrameAssembler.flush, hframe, FrameAssembler.takeFrame,
          DataPath.publishAssemblerCounters]
      exact ⟨ha.connected, ha.pushDeadline,
        ⟨fun h => absurd hclosed h, fun h => absurd h hnot⟩, ha.idleDeadline, ha.statsInterval,
        ha.nextStats, fun h => absurd h hnot, fun _ => ha.push, fun _ => ha.none⟩
    · obtain ⟨rfl, hrest⟩ := Prod.mk.inj hbranch
      cases hrest
      have hpending : d.IdlePending now := by
        refine ⟨ha.frame.mp hframe, ?_⟩
        rw [← hexact]
        exact Int.not_le.mp fun hle => hdue (Int64.le_iff_toInt_le.mpr hle)
      exact ⟨ha.connected, ha.pushDeadline, ⟨fun _ => hpending, fun _ => hframe⟩,
        ha.idleDeadline, ha.statsInterval, ha.nextStats, fun _ => ⟨deadline, rfl, hexact⟩,
        fun h => absurd hpending h, fun h => absurd hpending h⟩
  · obtain ⟨rfl, hrest⟩ := Prod.mk.inj (Option.some.inj h)
    cases hrest
    have hnot : ¬d.IdlePending now := fun hpending => hframe (ha.frame.mpr hpending.1)
    exact ⟨ha.connected, ha.pushDeadline,
      ⟨fun h => absurd h hframe, fun h => absurd h hnot⟩, ha.idleDeadline, ha.statsInterval,
      ha.nextStats, fun h => absurd h hnot, fun _ => ha.push, fun _ => ha.none⟩

theorem exists_idleTick_iff (ha : Asked d now next d₁) :
    (∃ next' out d', d₁.idleTick now next = some (next', out, d')) ↔
      (d.KeepsFrame now → SteadyClock.Fits d.nextIdleDeadline) := by
  rw [← ha.frame, ← ha.idleDeadline]
  unfold idleTick
  split_ifs with hframe
  · rw [idleDeadline, ← SteadyClock.exists_add_iff]
    constructor
    · rintro ⟨next', out, d', h⟩ -
      obtain ⟨deadline, hsum, -⟩ := Option.map_eq_some_iff.mp h
      exact ⟨deadline, hsum⟩
    · intro h
      obtain ⟨deadline, hsum⟩ := h hframe
      exact ⟨_, _, _, by rw [hsum]; rfl⟩
  · exact ⟨fun _ hsome => absurd hsome hframe, fun _ => ⟨next, [], d₁, rfl⟩⟩

/-- Both branches of the last part set the timer to its first time to come. -/
theorem statsTick_of_pos (hpos : 0 < d.statsInterval) :
    d.statsTick now next =
      (SteadyClock.skip d.statsInterval hpos now d.nextStats).map fun n =>
        (some (earlier next n),
          if now ≥ d.nextStats ∧ d.rxEventCb then some d.snapshot else none,
          { d with nextStats := n }) := by
  unfold statsTick
  rw [dif_pos hpos]
  by_cases hdue : now ≥ d.nextStats
  · simp only [hdue, if_true, true_and]
  · have hfirst : SteadyClock.skip d.statsInterval hpos now d.nextStats = some d.nextStats :=
      SteadyClock.skip_of_lt hpos (Int64.not_le.mp hdue)
    rw [if_neg hdue, hfirst]
    simp only [hdue, Option.map_some, false_and, if_false]

/-- What the last part does: nothing, or the timer is set to its first time to come. -/
theorem statsTick_eq_some {stats : Option DeviceStats}
    (h : d.statsTick now next = some (next', stats, d')) :
    (¬0 < d.statsInterval ∧ next' = next ∧ d' = d) ∨
      (0 < d.statsInterval ∧ ∃ n, IsLeast (d.statsTimes now) n.toInt ∧
        next' = some (earlier next n) ∧ d' = { d with nextStats := n }) := by
  by_cases hpos : 0 < d.statsInterval
  · rw [statsTick_of_pos hpos] at h
    obtain ⟨n, hskip, heq⟩ := Option.map_eq_some_iff.mp h
    obtain ⟨rfl, hrest⟩ := Prod.mk.inj heq
    cases hrest
    exact .inr ⟨hpos, n, (SteadyClock.skip_eq_some_iff hpos now d.nextStats n).mp hskip, rfl, rfl⟩
  · rw [statsTick, dif_neg hpos] at h
    obtain ⟨rfl, hrest⟩ := Prod.mk.inj (Option.some.inj h)
    cases hrest
    exact .inl ⟨hpos, rfl, rfl⟩

theorem exists_statsTick_iff :
    (∃ next' stats d', d.statsTick now next = some (next', stats, d')) ↔
      (0 < d.statsInterval → ∃ t ∈ d.statsTimes now, SteadyClock.Fits t) := by
  by_cases hpos : 0 < d.statsInterval
  · rw [statsTick_of_pos hpos, statsTimes, ← SteadyClock.exists_skip_iff hpos]
    constructor
    · rintro ⟨next', stats, d', h⟩ -
      obtain ⟨n, hskip, -⟩ := Option.map_eq_some_iff.mp h
      exact ⟨n, hskip⟩
    · intro h
      obtain ⟨n, hskip⟩ := h hpos
      exact ⟨_, _, _, by rw [hskip]; rfl⟩
  · rw [statsTick, dif_neg hpos]
    exact ⟨fun _ h => absurd h hpos, fun _ => ⟨next, none, d, rfl⟩⟩

end Parts

/-! ## A whole tick -/

section Tick

variable {d : TimedReceiver} {now : Int64} {r : Ticked}

/-- The parts of a tick. -/
theorem tick_eq_some (h : d.tick now = some r) :
    ∃ next d', Served d now next d' ∧
      d'.statsTick now next = some (r.next, r.stats, r.device) := by
  unfold tick at h
  simp only [Option.bind_eq_bind, Option.bind_eq_some_iff, Option.pure_def, Prod.exists] at h
  obtain ⟨next₁, d₁, hconnection, next₂, out, d₂, hidle, next₃, stats, d₃, hstats, heq⟩ := h
  cases heq
  exact ⟨next₂, d₂, served_of_idleTick (asked_of_connectionTick hconnection) hidle, hstats⟩

/-- **A tick has a value if its deadlines are time points.** -/
theorem exists_tick_iff : (∃ r, d.tick now = some r) ↔ d.Representable now := by
  unfold tick
  simp only [Option.bind_eq_bind, Option.bind_eq_some_iff, Option.pure_def, Prod.exists]
  constructor
  · rintro ⟨r, next₁, d₁, hconnection, next₂, out, d₂, hidle, next₃, stats, d₃, hstats, -⟩
    have hasked := asked_of_connectionTick hconnection
    have hserved := served_of_idleTick hasked hidle
    refine ⟨exists_connectionTick_iff.mp ⟨_, _, hconnection⟩,
      (exists_idleTick_iff hasked).mp ⟨_, _, _, hidle⟩, ?_⟩
    have hfits := exists_statsTick_iff.mp ⟨_, _, _, hstats⟩
    rw [statsTimes, hserved.statsInterval, hserved.nextStats] at hfits
    exact hfits
  · intro h
    obtain ⟨next₁, d₁, hconnection⟩ := exists_connectionTick_iff.mpr h.push
    have hasked := asked_of_connectionTick hconnection
    obtain ⟨next₂, out, d₂, hidle⟩ := (exists_idleTick_iff hasked).mpr h.idle
    have hserved := served_of_idleTick hasked hidle
    have hfits : 0 < d₂.statsInterval → ∃ t ∈ d₂.statsTimes now, SteadyClock.Fits t := by
      rw [statsTimes, hserved.statsInterval, hserved.nextStats]
      exact h.stats
    obtain ⟨next₃, stats, d₃, hstats⟩ := exists_statsTick_iff.mpr hfits
    exact ⟨_, _, _, hconnection, _, _, _, hidle, _, _, _, hstats, rfl⟩

variable {next : Option Int64} {d' : TimedReceiver}

theorem connectionTick_receiver (h : d.connectionTick now = some (next, d')) :
    d'.toReceiver = d.toReceiver.connectionTick now := by
  unfold connectionTick at h
  unfold Receiver.connectionTick
  split_ifs at h with hconnected
  · obtain ⟨deadline, hsum, hbranch⟩ := Option.map_eq_some_iff.mp h
    rw [← SteadyClock.eq_add_of_add hsum]
    split_ifs at hbranch with hdue
    · cases hbranch
      rw [if_pos ⟨hconnected, hdue⟩]
    · cases hbranch
      rw [if_neg fun h => hdue h.2]
  · cases h
    rw [if_neg fun h => hconnected h.1]

theorem idleTick_receiver {next' : Option Int64} {out : List Delivery}
    (h : d.idleTick now next = some (next', out, d')) :
    (out, d'.toReceiver) =
      if d.assembler.cur.points ≠ [] ∧ now ≥ d.lastPointPacket + d.idleWindow then
        d.toReceiver.closeIdleFrame
      else ([], d.toReceiver) := by
  unfold idleTick at h
  split_ifs at h with hframe
  · obtain ⟨deadline, hsum, hbranch⟩ := Option.map_eq_some_iff.mp h
    rw [← SteadyClock.eq_add_of_add hsum]
    split_ifs at hbranch with hdue
    · obtain ⟨-, hrest⟩ := Prod.mk.inj hbranch
      cases hrest
      rw [if_pos ⟨hframe, hdue⟩]
    · obtain ⟨-, hrest⟩ := Prod.mk.inj hbranch
      cases hrest
      rw [if_neg fun h => hdue h.2]
  · obtain ⟨-, hrest⟩ := Prod.mk.inj (Option.some.inj h)
    cases hrest
    rw [if_neg fun h => hframe h.1]

/-- **On what `Receiver` knows, this is its `tick`.** -/
theorem tick_receiver (h : d.tick now = some r) :
    (r.delivered, r.device.toReceiver) = d.toReceiver.tick now := by
  unfold tick at h
  simp only [Option.bind_eq_bind, Option.bind_eq_some_iff, Option.pure_def, Prod.exists] at h
  obtain ⟨next₁, d₁, hconnection, next₂, out, d₂, hidle, next₃, stats, d₃, hstats, heq⟩ := h
  cases heq
  have hkept : d₃.toReceiver = d₂.toReceiver := by
    rcases statsTick_eq_some hstats with ⟨-, -, rfl⟩ | ⟨-, n, -, -, rfl⟩ <;> rfl
  show (out, d₃.toReceiver) = _
  rw [hkept, idleTick_receiver hidle]
  show _ = if _ then _ else _
  rw [← connectionTick_receiver hconnection]
  rfl

/-! ## The time returned -/

theorem earlier_le_right (next : Option Int64) (n : Int64) :
    (earlier next n).toInt ≤ n.toInt := by
  cases next with
  | none => exact Int.le_refl _
  | some =>
    simp only [earlier]
    split_ifs with hlt
    · exact Int.le_refl _
    · exact Int.not_lt.mp fun h => hlt (Int64.lt_iff_toInt_lt.mpr h)

theorem earlier_le_left (m n : Int64) : (earlier (some m) n).toInt ≤ m.toInt := by
  simp only [earlier]
  split_ifs with hlt
  · exact Int.le_of_lt (Int64.lt_iff_toInt_lt.mp hlt)
  · exact Int.le_refl _

theorem earlier_eq (next : Option Int64) (n : Int64) :
    earlier next n = n ∨ next = some (earlier next n) := by
  cases next with
  | none => exact .inl rfl
  | some =>
    simp only [earlier]
    split_ifs with hlt
    · exact .inl rfl
    · exact .inr rfl

/-- The period of `kStats` only makes the time earlier. -/
theorem statsTick_next_le {next' : Option Int64} {stats : Option DeviceStats} {m : Int64}
    (h : d.statsTick now next = some (next', stats, d')) (hm : next = some m) :
    ∃ n, next' = some n ∧ n.toInt ≤ m.toInt := by
  rcases statsTick_eq_some h with ⟨-, rfl, -⟩ | ⟨-, n, -, rfl, -⟩
  · exact ⟨m, hm, Int.le_refl _⟩
  · exact ⟨_, rfl, hm ▸ earlier_le_left m n⟩

/-- **The time returned is one of the timers.** -/
theorem armed_of_next (h : d.tick now = some r) {n : Int64} (hn : r.next = some n) :
    Armed r.device n.toInt := by
  obtain ⟨next, d', hserved, hstats⟩ := tick_eq_some h
  -- what is there before the last part is one of the two other timers
  have hbefore : ∀ m, next = some m →
      (d'.connected = true ∧ m.toInt = d'.pushDeadline) ∨
        (d'.assembler.cur.points ≠ [] ∧ m.toInt = d'.idleDeadline) := by
    intro m hm
    rw [hserved.pushDeadline, hserved.idleDeadline]
    by_cases hidle : d.IdlePending now
    · obtain ⟨m', hm', hexact⟩ := hserved.idle hidle
      obtain rfl := Option.some.inj (hm.symm.trans hm')
      exact .inr ⟨hserved.frame.mpr hidle, hexact⟩
    · by_cases hpush : d.PushPending now
      · obtain ⟨m', hm', hexact⟩ := hserved.push hidle hpush
        obtain rfl := Option.some.inj (hm.symm.trans hm')
        exact .inl ⟨hserved.connected.mpr hpush, hexact⟩
      · rw [hserved.none hidle hpush] at hm
        exact absurd hm (by simp)
  have harmed : ∀ (device : TimedReceiver) (m : Int64),
      device.toReceiver = d'.toReceiver → next = some m → Armed device m.toInt := by
    intro device m hsame hm
    rcases hbefore m hm with ⟨hup, hexact⟩ | ⟨hframe, hexact⟩
    · rw [hexact, show d'.pushDeadline = device.pushDeadline by
        rw [pushDeadline, pushDeadline, hsame]]
      exact .push (by rw [hsame]; exact hup)
    · rw [hexact, show d'.idleDeadline = device.idleDeadline by
        rw [idleDeadline, idleDeadline, hsame]]
      exact .idle (by rw [hsame]; exact hframe)
  rcases statsTick_eq_some hstats with ⟨-, hsame, hdevice⟩ | ⟨hpos, first, -, hnext, hdevice⟩
  · exact harmed _ n (by rw [hdevice]) (hsame ▸ hn)
  · obtain rfl := Option.some.inj (hnext.symm.trans hn)
    rcases earlier_eq next first with heq | heq
    · rw [heq, hdevice]
      exact .stats hpos
    · exact harmed _ _ (by rw [hdevice]) heq

/-- Where the push timeout is not hidden, no timer is earlier than the time returned. -/
theorem next_le_of_armed (h : d.tick now = some r) (hidden : ¬d.PushHidden now) {t : ℤ}
    (ht : Armed r.device t) : ∃ n, r.next = some n ∧ n.toInt ≤ t := by
  obtain ⟨next, d', hserved, hstats⟩ := tick_eq_some h
  have hdevice : r.device.toReceiver = d'.toReceiver := by
    rcases statsTick_eq_some hstats with ⟨-, -, hdevice⟩ | ⟨-, n, -, -, hdevice⟩ <;> rw [hdevice]
  cases ht with
  | push hup =>
    have hpush : d.PushPending now := hserved.connected.mp (hdevice ▸ hup)
    have htime : r.device.pushDeadline = d.pushDeadline := by
      rw [← hserved.pushDeadline, pushDeadline, pushDeadline, hdevice]
    rw [htime]
    -- this is the timer that may be hidden, by an idle close that is pending as well
    by_cases hidle : d.IdlePending now
    · obtain ⟨m, hm, hexact⟩ := hserved.idle hidle
      rcases Int.lt_or_le d.pushDeadline d.nextIdleDeadline with hlater | hsooner
      · -- the idle close is later, so a `kStats` event comes before both
        have hsome : 0 < d.statsInterval ∧ ∃ t ∈ d.statsTimes now, t ≤ d.pushDeadline := by
          by_contra hnone
          refine hidden ⟨hpush, hidle.1, hlater, fun hpos t ht => ?_⟩
          exact Int.not_le.mp fun hle => hnone ⟨hpos, t, ht, hle⟩
        obtain ⟨hpos, t, ht, hle⟩ := hsome
        rcases statsTick_eq_some hstats with ⟨hoff, -, -⟩ | ⟨-, n, hleast, hnext, -⟩
        · exact absurd (hserved.statsInterval ▸ hpos) hoff
        · rw [statsTimes, hserved.statsInterval, hserved.nextStats] at hleast
          have hfirst : n.toInt ≤ t := hleast.2 ht
          exact ⟨_, hnext, (earlier_le_right next n).trans (hfirst.trans hle)⟩
      · obtain ⟨n, hn, hle⟩ := statsTick_next_le hstats hm
        exact ⟨n, hn, by omega⟩
    · obtain ⟨m, hm, hexact⟩ := hserved.push hidle hpush
      obtain ⟨n, hn, hle⟩ := statsTick_next_le hstats hm
      exact ⟨n, hn, by omega⟩
  | idle hframe =>
    have hidle : d.IdlePending now := hserved.frame.mp (hdevice ▸ hframe)
    have htime : r.device.idleDeadline = d.nextIdleDeadline := by
      rw [← hserved.idleDeadline, idleDeadline, idleDeadline, hdevice]
    obtain ⟨m, hm, hexact⟩ := hserved.idle hidle
    obtain ⟨n, hn, hle⟩ := statsTick_next_le hstats hm
    exact ⟨n, hn, by omega⟩
  | stats hpos =>
    rcases statsTick_eq_some hstats with ⟨hoff, -, hsame⟩ | ⟨-, n, -, hnext, hsame⟩
    · exact absurd (hsame ▸ hpos) hoff
    · refine ⟨_, hnext, ?_⟩
      rw [hsame]
      exact earlier_le_right next n

/-- Where it is hidden, the time returned is after it. -/
theorem lt_next_of_pushHidden (h : d.tick now = some r) (hidden : d.PushHidden now) :
    Armed r.device d.pushDeadline ∧ ∀ n, r.next = some n → d.pushDeadline < n.toInt := by
  obtain ⟨next, d', hserved, hstats⟩ := tick_eq_some h
  have hidle : d.IdlePending now := ⟨hidden.frame, hidden.pending.2.trans hidden.later⟩
  obtain ⟨m, rfl, hexact⟩ := hserved.idle hidle
  have hlater := hidden.later
  have hup : d'.connected = true := hserved.connected.mpr hidden.pending
  rw [← hserved.pushDeadline]
  rcases statsTick_eq_some hstats with ⟨-, hnext, hdevice⟩ | ⟨hpos, first, hleast, hnext, hdevice⟩
  · rw [hdevice, hnext]
    refine ⟨.push hup, fun n hn => ?_⟩
    cases hn
    rw [hserved.pushDeadline]
    omega
  · rw [statsTimes, hserved.statsInterval, hserved.nextStats] at hleast
    have hfirst := hidden.stats (hserved.statsInterval ▸ hpos) _ hleast.1
    rw [hdevice, hnext]
    refine ⟨.push hup, fun n hn => ?_⟩
    cases hn
    rw [hserved.pushDeadline]
    rcases earlier_eq (some m) first with heq | heq
    · rw [heq]
      exact hfirst
    · rw [← Option.some.inj heq]
      omega

/-- **When a tick reports the earliest timer.** -/
theorem reports_iff : d.Reports now ↔ d.Representable now ∧ ¬d.PushHidden now := by
  constructor
  · rintro ⟨r, h, hall⟩
    refine ⟨exists_tick_iff.mp ⟨r, h⟩, fun hidden => ?_⟩
    obtain ⟨harmed, hafter⟩ := lt_next_of_pushHidden h hidden
    obtain ⟨n, hn, hle⟩ := hall _ harmed
    exact absurd (hafter n hn) (Int.not_lt.mpr hle)
  · rintro ⟨hrange, hidden⟩
    obtain ⟨r, h⟩ := exists_tick_iff.mpr hrange
    exact ⟨r, h, fun t ht => next_le_of_armed h hidden ht⟩

end Tick

/-! ## The receive loop waits for the earliest -/

/-- The timers of the devices. -/
def timers (ds : List TimedReceiver) : Set ℤ :=
  {t | ∃ d ∈ ds, Armed d t}

theorem sooner_le_left (deadline : Int64) (next : Option Int64) :
    (sooner deadline next).toInt ≤ deadline.toInt := by
  cases next with
  | none => exact Int.le_refl _
  | some next => exact earlier_le_left deadline next

theorem sooner_le_right (deadline next : Int64) :
    (sooner deadline (some next)).toInt ≤ next.toInt :=
  earlier_le_right (some deadline) next

theorem sooner_eq (deadline : Int64) (next : Option Int64) :
    sooner deadline next = deadline ∨ next = some (sooner deadline next) := by
  cases next with
  | none => exact .inl rfl
  | some next =>
    rcases earlier_eq (some deadline) next with h | h
    · exact .inr (congrArg some h.symm)
    · exact .inl (Option.some.inj h).symm

/-- The loop over the devices keeps the earliest time it has met. -/
theorem tickAll_isLeast {now : Int64} {ds : List TimedReceiver} (h : ∀ d ∈ ds, d.Reports now)
    (deadline : Int64) :
    ∃ deadline' ds', tickAll now deadline ds = some (deadline', ds') ∧
      IsLeast (insert deadline.toInt (timers ds')) deadline'.toInt := by
  induction ds generalizing deadline with
  | nil =>
    refine ⟨deadline, [], rfl, Set.mem_insert _ _, ?_⟩
    rintro t (rfl | ⟨d, hd, -⟩)
    · exact Int.le_refl _
    · exact absurd hd (by simp)
  | cons d ds ih =>
    obtain ⟨r, htick, hall⟩ := h d (by simp)
    obtain ⟨deadline', ds', hrest, hmem, hlow⟩ :=
      ih (fun d hd => h d (by simp [hd])) (sooner deadline r.next)
    have hfirst : deadline'.toInt ≤ (sooner deadline r.next).toInt := hlow (Set.mem_insert _ _)
    refine ⟨deadline', r.device :: ds', ?_, ?_, ?_⟩
    · simp only [tickAll, htick, hrest, Option.bind_eq_bind, Option.bind_some, Option.pure_def]
    · rcases hmem with heq | ⟨d', hd', ht⟩
      · -- it is the time of this device, or was there before
        rw [heq]
        rcases sooner_eq deadline r.next with hsame | hnext
        · rw [hsame]
          exact Set.mem_insert _ _
        · exact .inr ⟨r.device, by simp, armed_of_next htick hnext⟩
      · exact .inr ⟨d', by simp [hd'], ht⟩
    · rintro t (rfl | ⟨d', hd', ht⟩)
      · exact hfirst.trans (sooner_le_left deadline r.next)
      · rcases List.mem_cons.mp hd' with rfl | hd'
        · obtain ⟨n, hn, hle⟩ := hall t ht
          rw [hn] at hfirst
          exact (hfirst.trans (sooner_le_right deadline n)).trans hle
        · exact hlow (.inr ⟨d', hd', ht⟩)

/-- The wait of `poll`, rounded to milliseconds. -/
theorem pollTimeout_eq {deadline now' : Int64}
    (h : deadline.toInt ≤ now'.toInt + kMaxPoll.toInt) :
    ∃ timeout, pollTimeout deadline now' = some timeout ∧
      timeout.toInt = ((deadline.toInt - now'.toInt).toNat + 999000) / 1000000 := by
  have hmax : kMaxPoll.toInt = 100000000 := rfl
  have hround : (999000 : Int64).toInt = 999000 := rfl
  have hms : (1000000 : Int64).toInt = 1000000 := rfl
  generalize hstop : (if deadline < now' then now' else deadline) = stop
  have hleft : stop.toInt - now'.toInt = (deadline.toInt - now'.toInt).toNat := by
    rw [← hstop]
    split_ifs with hlt
    · have := Int64.lt_iff_toInt_lt.mp hlt
      omega
    · rw [Int64.lt_iff_toInt_lt] at hlt
      omega
  obtain ⟨left, hl⟩ : SteadyClock.Fits (stop.toInt - now'.toInt) :=
    SteadyClock.fits_iff.mpr (by omega)
  obtain ⟨sum, hs⟩ : SteadyClock.Fits (left.toInt + (999000 : Int64).toInt) :=
    SteadyClock.fits_iff.mpr (by omega)
  refine ⟨sum / 1000000, ?_, ?_⟩
  · unfold pollTimeout
    rw [hstop, SteadyClock.sub_eq_some_iff.mpr hl, Option.bind_eq_bind, Option.bind_some,
      SteadyClock.add_eq_some_iff.mpr hs, Option.bind_some]
    rfl
  · have hsmall : sum.toInt = (deadline.toInt - now'.toInt).toNat + 999000 := by omega
    have hmin : sum ≠ Int64.minValue := by
      rintro rfl
      have : Int64.minValue.toInt = -9223372036854775808 := rfl
      omega
    rw [Int64.toInt_div_of_ne_left _ _ hmin, hms, Int.tdiv_eq_ediv_of_nonneg (by omega), hsmall]

/-- **The earliest timer.**  A tick reports it if and only if its deadlines are time points
and the deadline of the idle close does not stand in place of an earlier push timeout.  Where
all devices report theirs, the receive loop waits for the earliest of all, 100 ms at most. -/
theorem tick_reports_the_earliest_timer (now : Int64) :
    (∀ d : TimedReceiver, d.Reports now ↔ d.Representable now ∧ ¬d.PushHidden now) ∧
    ∀ (ds : List TimedReceiver) (now' : Int64),
      SteadyClock.Fits (now.toInt + kMaxPoll.toInt) → now ≤ now' → (∀ d ∈ ds, d.Reports now) →
        ∃ deadline ds' timeout, pollDeadline now ds = some (deadline, ds') ∧
          IsLeast (insert (now.toInt + kMaxPoll.toInt) (timers ds')) deadline.toInt ∧
          pollTimeout deadline now' = some timeout ∧
          timeout.toInt = ((deadline.toInt - now'.toInt).toNat + 999000) / 1000000 := by
  refine ⟨fun d => reports_iff, fun ds now' hfits hle hall => ?_⟩
  obtain ⟨cap, hcap⟩ := hfits
  obtain ⟨deadline, ds', hticks, hleast⟩ := tickAll_isLeast hall cap
  have hbefore : deadline.toInt ≤ now'.toInt + kMaxPoll.toInt := by
    have hfirst : deadline.toInt ≤ cap.toInt := hleast.2 (Set.mem_insert _ _)
    have := Int64.le_iff_toInt_le.mp hle
    omega
  obtain ⟨timeout, htimeout, hms⟩ := pollTimeout_eq hbefore
  refine ⟨deadline, ds', timeout, ?_, hcap ▸ hleast, htimeout, hms⟩
  simp only [pollDeadline, SteadyClock.add_eq_some_iff.mpr hcap, Option.bind_eq_bind,
    Option.bind_some, hticks]

/-- A device that has had its last point after 50 ms, with a push timeout of 3 s, an idle
close after 100 ms and a `kStats` event every second. -/
def receiving : TimedReceiver where
  toReceiver :=
    ((Receiver.new false { window := 100000000 } .kLidar 3000000000 0).step
      (.datagram (unsyncedPacket 1 14 30) 0 50000000)).2
  statsInterval := 1000000000
  nextStats := 1000000000

theorem tick_reports_the_earliest_timer_receiving :
    receiving.Reports 60000000 ∧ ∃ deadline ds' timeout,
      pollDeadline 60000000 [receiving] = some (deadline, ds') ∧
        IsLeast (insert 160000000 (timers ds')) deadline.toInt ∧
        pollTimeout deadline 61000000 = some timeout ∧
        timeout.toInt = ((deadline.toInt - 61000000).toNat + 999000) / 1000000 := by
  have hpush : receiving.pushDeadline = 3000000000 := by decide +kernel
  have hidle : receiving.nextIdleDeadline = 150000000 := by decide +kernel
  have hreports : receiving.Reports 60000000 := by
    refine ((tick_reports_the_earliest_timer 60000000).1 receiving).mpr ⟨⟨?_, ?_, ?_⟩, ?_⟩
    · exact fun _ => ⟨3000000000, hpush.symm⟩
    · exact fun _ => ⟨150000000, hidle.symm⟩
    · exact fun _ => ⟨1000000000, ⟨by decide, 0, rfl⟩, 1000000000, rfl⟩
    · intro hidden
      have hlater := hidden.later
      rw [hpush, hidle] at hlater
      exact absurd hlater (by decide)
  exact ⟨hreports, (tick_reports_the_earliest_timer 60000000).2 [receiving] 61000000
    ⟨160000000, rfl⟩ (by decide) fun d hd => List.mem_singleton.mp hd ▸ hreports⟩

/-- A device that has had no push for 2.98 s when a point arrives, with a push timeout of 3 s
and an idle close after 100 ms. -/
def lateDevice : TimedReceiver where
  toReceiver :=
    ((Receiver.new false { window := 100000000 } .kLidar 3000000000 0).step
      (.datagram (unsyncedPacket 1 14 30) 0 2980000000)).2

/-- **The tick 10 ms before the push timeout returns the idle close, 90 ms ahead**, and the
receive loop waits for it. -/
theorem idle_close_hides_the_push_timeout :
    (lateDevice.tick 2990000000).map Ticked.next = some (some 3080000000) ∧
      ((lateDevice.tick 2990000000).map fun r => (r.device.connected, r.device.pushDeadline)) =
        some (true, 3000000000) ∧
      (pollDeadline 2990000000 [lateDevice]).map Prod.fst = some 3080000000 ∧
      ¬lateDevice.Reports 2990000000 := by
  have hnext : (lateDevice.tick 2990000000).map Ticked.next = some (some 3080000000) := by
    decide +kernel
  have harmed : ((lateDevice.tick 2990000000).map fun r =>
      (r.device.connected, r.device.pushDeadline)) = some (true, 3000000000) := by
    decide +kernel
  refine ⟨hnext, harmed, by decide +kernel, ?_⟩
  rintro ⟨r, htick, hall⟩
  rw [htick] at hnext harmed
  obtain ⟨hup, htime⟩ := Prod.mk.inj (Option.some.inj harmed)
  obtain ⟨n, hn, hle⟩ := hall _ (.push hup)
  obtain rfl := Option.some.inj (hn.symm.trans (Option.some.inj hnext))
  rw [htime] at hle
  exact absurd hle (by decide)

end TimedReceiver

end LivoxMid360
