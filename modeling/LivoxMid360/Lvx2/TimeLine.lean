import LivoxMid360.Lvx2.RoundTrip

/-!
# The time line of a recording

`Lvx2Writer` cuts frames on a time line of its own.  A device joins it at the newest time
written so far, when it sends its first package and again after its clock has jumped; in
between it moves on it as its clock does.

`TimeLine` is that time line in exact integers.  The writer has it in 64-bit arithmetic:
the time of a device is a wrapping difference from a base, read as a signed number.
`OnLine` relates the two and bounds how far a number of writes can have moved anything, so
that the arithmetic stays exact for 9 * 10^9 writes (`OnLine.advanceClock`).

`placements` is where the packages of a recording went: the slot of each, and the frame.
`time_line_moves_forward` is the outcome: the line only moves forward, a second at a time,
the frames come in the order of their slots, and there are no more of them than the line
has slots.
-/

namespace LivoxMid360

open Lvx2

/-! ## The time line in exact integers -/

/-- The newest time written, and for each device on the line its time and its timestamp
there. -/
structure TimeLine where
  latest : ℤ := 0
  device : ℕ → Option (ℤ × UInt64) := fun _ => none

namespace TimeLine

/-- The time of the next package of a device. -/
def timeOf (l : TimeLine) (deviceIndex : ℕ) (ts : UInt64) : ℤ :=
  match l.device deviceIndex with
  | none => l.latest
  | some (time, prev) =>
    if ((ts.toNat : ℤ) - prev.toNat).natAbs > 1000000000 then l.latest
    else time + (ts.toNat - prev.toNat)

/-- A package of a device. -/
def advance (l : TimeLine) (deviceIndex : ℕ) (ts : UInt64) : TimeLine where
  latest := max l.latest (l.timeOf deviceIndex ts)
  device := Function.update l.device deviceIndex (some (l.timeOf deviceIndex ts, ts))

theorem advance_device_self (l : TimeLine) (i : ℕ) (ts : UInt64) :
    (l.advance i ts).device i = some (l.timeOf i ts, ts) :=
  Function.update_self ..

theorem advance_device_of_ne (l : TimeLine) {i j : ℕ} (h : j ≠ i) (ts : UInt64) :
    (l.advance i ts).device j = l.device j :=
  Function.update_of_ne h ..

/-- The slot of a time, for frames of `frameDurationMs`. -/
def slotOf (frameDurationMs : UInt32) (time : ℤ) : ℕ :=
  time.toNat / (frameDurationMs.toNat * 1000000)

/-- A call of `write`; only a packet that is recorded is on the line. -/
def write (devices : List Lvx2DeviceInfo) (l : TimeLine) (p : ℕ × DataPacketView) : TimeLine :=
  if p.1 < devices.length ∧ isRecorded p.2 = true then l.advance p.1 p.2.header.timestampNs else l

end TimeLine

/-! ## Machine arithmetic -/

/-- A word read as a signed number. -/
theorem toInt_toInt64 (x : UInt64) :
    x.toInt64.toInt = if x.toNat < 2 ^ 63 then (x.toNat : ℤ) else x.toNat - 2 ^ 64 := by
  have hword := x.toBitVec.toInt_eq_toNat_cond
  have hlt := x.toNat_lt
  rw [← Int64.toInt_toBitVec, UInt64.toBitVec_toInt64, hword, UInt64.toNat_toBitVec]
  split_ifs <;> omega

/-- A difference from a base moves with its first operand, within the signed range. -/
theorem toInt_sub_moves {ts prev base : UInt64}
    (hlo : -9000000000000000000 ≤ (prev - base).toInt64.toInt + (ts.toNat - prev.toNat))
    (hhi : (prev - base).toInt64.toInt + (ts.toNat - prev.toNat) ≤ 9000000000000000000) :
    (ts - base).toInt64.toInt = (prev - base).toInt64.toInt + (ts.toNat - prev.toNat) := by
  have hts := ts.toNat_lt
  have hprev := prev.toNat_lt
  have hbase := base.toNat_lt
  rw [toInt_toInt64, UInt64.toNat_sub] at *
  rw [toInt_toInt64, UInt64.toNat_sub]
  split_ifs at * <;> omega

theorem toInt_max (a b : Int64) : (max a b).toInt = max a.toInt b.toInt := by
  by_cases h : a ≤ b
  · have hmax : max a b = b := if_pos h
    have hle := Int64.le_iff_toInt_le.mp h
    rw [hmax]
    omega
  · have hmax : max a b = a := if_neg h
    have hlt := mt Int64.le_iff_toInt_le.mpr h
    rw [hmax]
    omega

theorem toNat_toUInt64 {a : Int64} (h : 0 ≤ a.toInt) : a.toUInt64.toNat = a.toInt.toNat := by
  have hword := toInt_toInt64 a.toUInt64
  have hlt := a.toUInt64.toNat_lt
  rw [Int64.toInt64_toUInt64] at hword
  split_ifs at hword <;> omega

theorem toNat_frameDuration (d : UInt32) : (d.toUInt64 * 1000000).toNat = d.toNat * 1000000 := by
  have hlt := d.toNat_lt
  rw [UInt64.toNat_mul, UInt32.toNat_toUInt64]
  simp
  omega

/-! ## The writer on the time line -/

namespace Lvx2Writer

/-- The base of a device's clock for its next package. -/
def clockBase (w : Lvx2Writer) (deviceIndex : ℕ) (ts : UInt64) : UInt64 :=
  let clock := w.clocks.getD deviceIndex {}
  let moved := if ts > clock.prev then ts - clock.prev else clock.prev - ts
  match clock.base with
  | none => ts - w.latestNs.toUInt64
  | some base => if moved > kClockJumpNs then ts - w.latestNs.toUInt64 else base

/-- `time_ns` of the next package of a device. -/
def timeNs (w : Lvx2Writer) (deviceIndex : ℕ) (ts : UInt64) : Int64 :=
  (ts - w.clockBase deviceIndex ts).toInt64

theorem advanceClock_eq (w : Lvx2Writer) (deviceIndex : ℕ) (ts : UInt64) :
    w.advanceClock deviceIndex ts = (if w.timeNs deviceIndex ts ≤ 0 then 0
        else (w.timeNs deviceIndex ts).toUInt64 / (w.frameDurationMs.toUInt64 * 1000000),
      { w with
        clocks := w.clocks.set deviceIndex { base := some (w.clockBase deviceIndex ts), prev := ts }
        latestNs := max w.latestNs (w.timeNs deviceIndex ts) }) := by
  unfold advanceClock timeNs clockBase
  cases (w.clocks.getD deviceIndex {}).base with
  | none => rfl
  | some => rfl

/-- How far the clock has moved, whatever the direction. -/
theorem toNat_moved (ts prev : UInt64) :
    (if ts > prev then ts - prev else prev - ts).toNat = ((ts.toNat : ℤ) - prev.toNat).natAbs := by
  split_ifs with h
  · have hlt : prev.toNat < ts.toNat := UInt64.lt_iff_toNat_lt.mp h
    rw [UInt64.toNat_sub_of_le _ _ (UInt64.le_iff_toNat_le.mpr hlt.le)]
    omega
  · have hle : ts.toNat ≤ prev.toNat := Nat.le_of_not_lt (mt UInt64.lt_iff_toNat_lt.mpr h)
    rw [UInt64.toNat_sub_of_le _ _ (UInt64.le_iff_toNat_le.mpr hle)]
    omega

/-- A device joins the line at the newest time. -/
theorem toInt64_join (ts : UInt64) (latestNs : Int64) :
    (ts - (ts - latestNs.toUInt64)).toInt64 = latestNs := by
  have hcancel : ts - (ts - latestNs.toUInt64) = latestNs.toUInt64 := by grind
  rw [hcancel, Int64.toInt64_toUInt64]

end Lvx2Writer

/-- A device's clock in the writer, and the device on the line. -/
def Lvx2Writer.DeviceClock.Shows (clock : Lvx2Writer.DeviceClock) : Option (ℤ × UInt64) → Prop
  | none => clock.base = none
  | some (time, prev) =>
    clock.prev = prev ∧ ∃ base, clock.base = some base ∧ (prev - base).toInt64.toInt = time

/-- The writer has the time line, exactly. -/
structure TimeLine.Exact (l : TimeLine) (w : Lvx2Writer) : Prop where
  latest : w.latestNs.toInt = l.latest
  clocks : ∀ i, i < w.clocks.length → (w.clocks.getD i {}).Shows (l.device i)

/-- The writer has the time line, which has moved by at most a second with each of `n`
writes. -/
structure OnLine (n : ℕ) (l : TimeLine) (w : Lvx2Writer) : Prop extends l.Exact w where
  nonneg : 0 ≤ l.latest
  le : l.latest ≤ 1000000000 * n
  times : ∀ i time prev, l.device i = some (time, prev) →
    -(1000000000 * n : ℤ) ≤ time ∧ time ≤ l.latest

namespace OnLine

variable {n : ℕ} {l : TimeLine} {w : Lvx2Writer}

/-- A package moves the newest time by at most a second. -/
theorem timeOf_bounds (h : OnLine n l w) (i : ℕ) (ts : UInt64) :
    -(1000000000 * (n + 1) : ℤ) ≤ l.timeOf i ts ∧ l.timeOf i ts ≤ l.latest + 1000000000 := by
  have hnonneg := h.nonneg
  unfold TimeLine.timeOf
  split
  · omega
  · rename_i time prev hdevice
    have htime := h.times i time prev hdevice
    split_ifs <;> omega

/-- More writes than have moved the line. -/
theorem mono (h : OnLine n l w) {m : ℕ} (hle : n ≤ m) : OnLine m l w where
  toExact := h.toExact
  nonneg := h.nonneg
  le := h.le.trans (by omega)
  times i time prev hdevice := by
    obtain ⟨hlo, hhi⟩ := h.times i time prev hdevice
    exact ⟨by omega, hhi⟩

/-- The writer computes the exact time. -/
theorem toInt_timeNs (h : OnLine n l w) (hn : n < 9000000000) {i : ℕ} (hi : i < w.clocks.length)
    (ts : UInt64) : (w.timeNs i ts).toInt = l.timeOf i ts := by
  obtain ⟨hlo, hhi⟩ := h.timeOf_bounds i ts
  have hle := h.le
  have hclock := h.clocks i hi
  unfold Lvx2Writer.timeNs Lvx2Writer.clockBase
  unfold TimeLine.timeOf at hlo hhi ⊢
  cases hdevice : l.device i with
  | none =>
    have hbase : (w.clocks.getD i {}).base = none := by
      rw [hdevice] at hclock
      exact hclock
    simp only [hbase]
    rw [Lvx2Writer.toInt64_join, h.latest]
  | some known =>
    obtain ⟨time, prev⟩ := known
    rw [hdevice] at hclock hlo hhi
    obtain ⟨hprev, base, hbase, htime⟩ := hclock
    have hjump : ((if ts > prev then ts - prev else prev - ts) > kClockJumpNs) ↔
        ((ts.toNat : ℤ) - prev.toNat).natAbs > 1000000000 := by
      rw [gt_iff_lt, UInt64.lt_iff_toNat_lt, Lvx2Writer.toNat_moved]
      rfl
    simp only [hbase, hprev, hjump] at hlo hhi ⊢
    split_ifs at hlo hhi ⊢ with hmoved
    · rw [Lvx2Writer.toInt64_join, h.latest]
    · rw [← htime] at hlo hhi ⊢
      exact toInt_sub_moves (by omega) (by omega)

/-- **A package on the time line**: the writer moves as the line does, and the slot is that
of the exact time. -/
theorem advanceClock (h : OnLine n l w) (hn : n < 9000000000) {i : ℕ}
    (hi : i < w.clocks.length) (ts : UInt64) :
    OnLine (n + 1) (l.advance i ts) (w.advanceClock i ts).2 ∧
      (w.advanceClock i ts).1.toNat = TimeLine.slotOf w.frameDurationMs (l.timeOf i ts) := by
  obtain ⟨hlo, hhi⟩ := h.timeOf_bounds i ts
  have htime := h.toInt_timeNs hn hi ts
  have hle := h.le
  have hnonneg := h.nonneg
  rw [Lvx2Writer.advanceClock_eq]
  refine ⟨⟨⟨?_, fun j hj => ?_⟩, ?_, ?_, fun j time prev hdevice => ?_⟩, ?_⟩
  · rw [toInt_max, h.latest, htime]
    rfl
  · rw [List.length_set] at hj
    by_cases hji : j = i
    · subst hji
      have hset : (w.clocks.set j { base := some (w.clockBase j ts), prev := ts }).getD j {} =
          { base := some (w.clockBase j ts), prev := ts } := by
        simp [hj]
      rw [hset, l.advance_device_self]
      exact ⟨rfl, _, rfl, htime⟩
    · have hset : (w.clocks.set i { base := some (w.clockBase i ts), prev := ts }).getD j {} =
          w.clocks.getD j {} := by
        simp [List.getD_eq_getElem?_getD, List.getElem?_set_ne (Ne.symm hji)]
      rw [hset, l.advance_device_of_ne hji]
      exact h.clocks j hj
  · exact hnonneg.trans (le_max_left ..)
  · refine max_le (hle.trans (by omega)) (hhi.trans ?_)
    omega
  -- `latest` does not go down, so the times of the other devices stay below it
  · have hgrows : l.latest ≤ (l.advance i ts).latest := le_max_left ..
    by_cases hji : j = i
    · subst hji
      rw [l.advance_device_self, Option.some.injEq, Prod.mk.injEq] at hdevice
      rw [← hdevice.1]
      exact ⟨by push_cast; exact hlo, le_max_right ..⟩
    · rw [l.advance_device_of_ne hji] at hdevice
      obtain ⟨hlow, hhigh⟩ := h.times j time prev hdevice
      exact ⟨by omega, hhigh.trans hgrows⟩
  · dsimp only
    unfold TimeLine.slotOf
    split_ifs with hzero
    · have hneg : l.timeOf i ts ≤ 0 := htime ▸ Int64.le_iff_toInt_le.mp hzero
      rw [Int.toNat_of_nonpos hneg, Nat.zero_div]
      rfl
    · have hpos : 0 ≤ (w.timeNs i ts).toInt := by
        have hlt := mt Int64.le_iff_toInt_le.mpr hzero
        exact (not_le.mp hlt).le
      rw [UInt64.toNat_div, toNat_toUInt64 hpos, toNat_frameDuration, htime]

end OnLine

/-! ## Where packages go -/

/-- Where a package went: its slot, the number of the frame, and the slot of the frame. -/
structure Lvx2Writer.Placement where
  slot : UInt64
  frame : ℕ
  frameSlot : UInt64
deriving DecidableEq, Repr

/-- The package behind another one: in its frame, when its slot is not above that of the
frame, and else the first of the next frame. -/
def Lvx2Writer.Placement.Before (e e' : Placement) : Prop :=
  (e'.slot ≤ e.frameSlot ∧ e'.frame = e.frame ∧ e'.frameSlot = e.frameSlot) ∨
    (e.frameSlot < e'.slot ∧ e'.frame = e.frame + 1 ∧ e'.frameSlot = e'.slot)

namespace Lvx2Writer

/-- Where `write` puts the package of a packet, if it does. -/
def placement (w : Lvx2Writer) (write : ℕ × DataPacketView) : Option Placement :=
  match (w.write write.1 write.2).1 with
  | .ok true =>
    some
      { slot := (w.advanceClock write.1 write.2.header.timestampNs).1
        frame := (w.write write.1 write.2).2.stats.frames
        frameSlot := (w.write write.1 write.2).2.frameSlot.getD 0 }
  | _ => none

/-- Where the packages of some calls of `write` go. -/
def placements (w : Lvx2Writer) : List (ℕ × DataPacketView) → List Placement
  | [] => []
  | p :: writes => (w.placement p).toList ++ (w.write p.1 p.2).2.placements writes

/-- The open frame stays, or moves to the file. -/
theorem cutFrame_cases (w : Lvx2Writer) (slot : UInt64) :
    (w.cutFrame slot = (.ok (), w) ∧ ∀ s, w.frameSlot = some s → slot ≤ s) ∨
      (∃ s, w.frameSlot = some s ∧ s < slot ∧ w.cutFrame slot = w.flushFrame) := by
  unfold cutFrame
  cases hslot : w.frameSlot with
  | none => exact .inl ⟨rfl, nofun⟩
  | some s =>
    dsimp only
    split_ifs with hlater
    · exact .inr ⟨s, rfl, hlater, rfl⟩
    · refine .inl ⟨rfl, fun s' hs' => ?_⟩
      obtain rfl := Option.some.inj hs'
      exact UInt64.not_lt.mp hlater

/-- `write` of a packet that is recorded. -/
theorem write_of_recorded {w : Lvx2Writer} {deviceIndex : ℕ} {packet : DataPacketView}
    (hopen : w.isOpen = true) (hlisted : deviceIndex < w.lidarIds.length)
    (hrecorded : isRecorded packet = true) :
    let advanced := w.advanceClock deviceIndex packet.header.timestampNs
    let cut := advanced.2.cutFrame advanced.1
    (∃ e, cut.1 = .error e ∧ w.write deviceIndex packet = (.error e, cut.2)) ∨
      (cut.1 = .ok () ∧ ∃ package,
        w.write deviceIndex packet = (.ok true, cut.2.addPackage advanced.1 package)) := by
  intro advanced cut
  rw [isRecorded_eq] at hrecorded
  obtain ⟨samples, hsamples⟩ := Option.isSome_iff_exists.mp hrecorded
  unfold write
  rw [if_neg (by rw [hopen]; decide), if_neg (Nat.not_le.mpr hlisted), hsamples]
  dsimp only
  rcases hcut : cutFrame _ _ with ⟨e | _, w₁⟩
  · exact .inl ⟨e, congrArg Prod.fst hcut, by rw [show cut = _ from hcut]⟩
  · exact .inr ⟨congrArg Prod.fst hcut, _, by rw [show cut = _ from hcut]⟩

/-- `write` of a packet that is not. -/
theorem write_of_not_recorded {w : Lvx2Writer} {deviceIndex : ℕ} {packet : DataPacketView}
    (hopen : w.isOpen = true)
    (h : ¬(deviceIndex < w.lidarIds.length ∧ isRecorded packet = true)) :
    (w.write deviceIndex packet).1 ≠ .ok true ∧ ∃ stats : Stats,
      stats.frames = w.stats.frames ∧ (w.write deviceIndex packet).2 = { w with stats } := by
  unfold write
  rw [if_neg (by rw [hopen]; decide)]
  by_cases hlisted : deviceIndex < w.lidarIds.length
  · have hnone : recordedSamples packet = none := by
      rw [← Option.not_isSome_iff_eq_none]
      exact fun hsome => h ⟨hlisted, (isRecorded_eq packet).trans hsome⟩
    rw [if_neg (Nat.not_le.mpr hlisted), hnone]
    exact ⟨nofun, { w.stats with ignored := w.stats.ignored + 1 }, rfl, rfl⟩
  · rw [if_pos (Nat.le_of_not_lt hlisted)]
    exact ⟨nofun, _, rfl, rfl⟩

end Lvx2Writer

/-- An open writer after `n` calls of `write`, on the time line `l`.  The slot of the open
frame is above those of the frames in the file, and not above the newest time. -/
structure Writing (devices : List Lvx2DeviceInfo) (frameDurationMs : UInt32) (n : ℕ)
    (l : TimeLine) (w : Lvx2Writer) : Prop where
  isOpen : w.isOpen = true
  lidarIds : w.lidarIds.length = devices.length
  clocks : w.clocks.length = devices.length
  duration : w.frameDurationMs = frameDurationMs
  line : OnLine n l w
  first : w.frameSlot = none → w.stats.frames = 0 ∧ w.frame = []
  later : ∀ s, w.frameSlot = some s → w.frame ≠ [] ∧ w.stats.frames ≤ s.toNat ∧
    s.toNat ≤ TimeLine.slotOf frameDurationMs l.latest

namespace Writing

variable {devices : List Lvx2DeviceInfo} {frameDurationMs : UInt32} {n : ℕ} {l : TimeLine}
  {w : Lvx2Writer}

/-- A call that writes no package leaves everything as it is, but for the statistics. -/
theorem ignored (h : Writing devices frameDurationMs n l w) {stats : Lvx2Writer.Stats}
    (hstats : stats.frames = w.stats.frames) :
    Writing devices frameDurationMs (n + 1) l { w with stats } where
  isOpen := h.isOpen
  lidarIds := h.lidarIds
  clocks := h.clocks
  duration := h.duration
  line := by
    obtain ⟨⟨hlatest, hclocks⟩, hnonneg, hle, htimes⟩ := h.line.mono (Nat.le_succ n)
    exact ⟨⟨hlatest, hclocks⟩, hnonneg, hle, htimes⟩
  first hnone := ⟨hstats.trans (h.first hnone).1, (h.first hnone).2⟩
  later s hs := hstats ▸ h.later s hs

theorem slotOf_le {time latest : ℤ} (h : time ≤ latest) :
    TimeLine.slotOf frameDurationMs time ≤ TimeLine.slotOf frameDurationMs latest :=
  Nat.div_le_div_right (Int.toNat_le_toNat h)

/-- A package in a frame whose slot is not above the newest time. -/
theorem addPackage {slot : UInt64} {package : Lvx2Package} (isOpen : w.isOpen = true)
    (lidarIds : w.lidarIds.length = devices.length) (clocks : w.clocks.length = devices.length)
    (duration : w.frameDurationMs = frameDurationMs) (line : OnLine n l w)
    (frames : w.stats.frames ≤ (Lvx2Writer.nextSlot w.frameSlot slot).toNat)
    (below : (Lvx2Writer.nextSlot w.frameSlot slot).toNat ≤
      TimeLine.slotOf frameDurationMs l.latest) :
    Writing devices frameDurationMs n l (w.addPackage slot package) where
  isOpen := isOpen
  lidarIds := lidarIds
  clocks := clocks
  duration := duration
  line := ⟨⟨line.latest, line.clocks⟩, line.nonneg, line.le, line.times⟩
  first hnone := nomatch hnone
  later s hs := by
    cases hs
    refine ⟨fun hempty => ?_, frames, below⟩
    have hlength := congrArg List.length hempty
    simp [Lvx2Writer.addPackage, kPackageHeaderSize] at hlength

/-- Which frame a package went to, for a writer that had `frames` frames in its file and an
open one with the slot `frameSlot`. -/
def Goes (frames : ℕ) (frameSlot : Option UInt64) (e : Lvx2Writer.Placement) : Prop :=
  match frameSlot with
  | none => e.frame = frames ∧ e.frameSlot = e.slot
  | some s => Lvx2Writer.Placement.Before ⟨s, frames, s⟩ e

/-- The clock of a device moves on. -/
theorem advanceClock (h : Writing devices frameDurationMs n l w) (hn : n < 9000000000) {i : ℕ}
    (hi : i < devices.length) (ts : UInt64) :
    Writing devices frameDurationMs (n + 1) (l.advance i ts) (w.advanceClock i ts).2 ∧
      (w.advanceClock i ts).1.toNat ≤ TimeLine.slotOf frameDurationMs (l.advance i ts).latest := by
  obtain ⟨hline, hslot⟩ := h.line.advanceClock hn (h.clocks.symm ▸ hi) ts
  have hgrows : TimeLine.slotOf frameDurationMs l.latest ≤
      TimeLine.slotOf frameDurationMs (l.advance i ts).latest := slotOf_le (le_max_left ..)
  refine ⟨⟨h.isOpen, h.lidarIds, ?_, h.duration, hline, h.first, fun s hs => ?_⟩, ?_⟩
  · rw [Lvx2Writer.advanceClock_eq, List.length_set]
    exact h.clocks
  · obtain ⟨hframe, hframes, hbelow⟩ := h.later s hs
    exact ⟨hframe, hframes, hbelow.trans hgrows⟩
  · rw [hslot, h.duration]
    exact slotOf_le (le_max_right ..)

/-- A package goes to the open frame, or to a new one when its slot is above. -/
theorem place (h : Writing devices frameDurationMs n l w) {slot : UInt64}
    (hslot : slot.toNat ≤ TimeLine.slotOf frameDurationMs l.latest)
    (hdisk : (w.cutFrame slot).2.disk.failed = false) :
    (w.cutFrame slot).1 = .ok () ∧ ∀ package,
      Writing devices frameDurationMs n l ((w.cutFrame slot).2.addPackage slot package) ∧
        Goes w.stats.frames w.frameSlot
          { slot
            frame := (w.cutFrame slot).2.stats.frames
            frameSlot := Lvx2Writer.nextSlot (w.cutFrame slot).2.frameSlot slot } := by
  obtain ⟨hcut, hjoins⟩ | ⟨s, hs, hlater, hcut⟩ := w.cutFrame_cases slot
  · -- The open frame stays open, or there is none.
    rw [hcut]
    refine ⟨rfl, fun package => ?_⟩
    cases hframeSlot : w.frameSlot with
    | none =>
      refine ⟨addPackage h.isOpen h.lidarIds h.clocks h.duration h.line ?_ ?_, rfl, rfl⟩
      · rw [(h.first hframeSlot).1]
        exact Nat.zero_le _
      · rw [hframeSlot]
        exact hslot
    | some s =>
      have hle := hjoins s hframeSlot
      have hnext : Lvx2Writer.nextSlot (some s) slot = s := if_neg (UInt64.not_lt.mpr hle)
      obtain ⟨-, hframes, hbelow⟩ := h.later s hframeSlot
      refine ⟨addPackage h.isOpen h.lidarIds h.clocks h.duration h.line ?_ ?_, ?_⟩
      · rw [hframeSlot, hnext]
        exact hframes
      · rw [hframeSlot, hnext]
        exact hbelow
      · rw [hnext]
        exact .inl ⟨hle, rfl, rfl⟩
  · -- The open frame moves to the file.
    obtain ⟨hframe, hframes, -⟩ := h.later s hs
    rw [hcut] at hdisk ⊢
    obtain ⟨e, disk, hflush, hfailed, -⟩ | ⟨hempty, -⟩ | ⟨-, disk, -, hflush⟩ :=
      w.flushFrame_cases
    · rw [hflush] at hdisk
      exact absurd (hfailed.symm.trans hdisk) (by decide)
    · exact absurd hempty hframe
    · rw [hflush]
      refine ⟨rfl, fun package => ⟨addPackage h.isOpen h.lidarIds h.clocks h.duration
        ⟨⟨h.line.latest, h.line.clocks⟩, h.line.nonneg, h.line.le, h.line.times⟩ ?_ hslot, ?_⟩⟩
      · have hlt := UInt64.lt_iff_toNat_lt.mp hlater
        dsimp only [Lvx2Writer.nextSlot]
        omega
      · rw [hs]
        exact .inr ⟨hlater, rfl, rfl⟩

/-- **A packet is recorded** in the open frame, or in a new one when its slot is above. -/
theorem recorded (h : Writing devices frameDurationMs n l w) (hn : n < 9000000000) {i : ℕ}
    {packet : DataPacketView} (hi : i < devices.length) (hrecorded : isRecorded packet = true)
    (hdisk : (w.write i packet).2.disk.failed = false) :
    Writing devices frameDurationMs (n + 1) (l.advance i packet.header.timestampNs)
        (w.write i packet).2 ∧
      ∃ e, w.placement (i, packet) = some e ∧ Goes w.stats.frames w.frameSlot e ∧
        (w.write i packet).2.frameSlot = some e.frameSlot ∧
        (w.write i packet).2.stats.frames = e.frame := by
  obtain ⟨hadvanced, hslot⟩ := h.advanceClock hn hi packet.header.timestampNs
  have hlisted : i < w.lidarIds.length := h.lidarIds.symm ▸ hi
  obtain ⟨e, herror, hwrite⟩ | ⟨hok, package, hwrite⟩ :=
    Lvx2Writer.write_of_recorded h.isOpen hlisted hrecorded
  · rw [hwrite] at hdisk
    exact absurd (herror.symm.trans (hadvanced.place hslot hdisk).1) (by simp)
  · rw [hwrite] at hdisk ⊢
    obtain ⟨hwriting, hgoes⟩ := (hadvanced.place hslot hdisk).2 package
    refine ⟨hwriting, _, ?_, hgoes, rfl, rfl⟩
    simp only [Lvx2Writer.placement, hwrite]
    rfl

/-- **A call of `write`** moves the time line forward, by at most a second, and its package
goes where its slot says. -/
theorem write (h : Writing devices frameDurationMs n l w) (hn : n < 9000000000)
    (p : ℕ × DataPacketView) (hdisk : (w.write p.1 p.2).2.disk.failed = false) :
    Writing devices frameDurationMs (n + 1) (l.write devices p) (w.write p.1 p.2).2 ∧
      (l.latest ≤ (l.write devices p).latest ∧
        (l.write devices p).latest ≤ l.latest + 1000000000) ∧
      ((w.placement p = none ∧ (w.write p.1 p.2).2.stats.frames = w.stats.frames ∧
          (w.write p.1 p.2).2.frameSlot = w.frameSlot) ∨
        ∃ e, w.placement p = some e ∧ Goes w.stats.frames w.frameSlot e ∧
          (w.write p.1 p.2).2.frameSlot = some e.frameSlot ∧
          (w.write p.1 p.2).2.stats.frames = e.frame) := by
  unfold TimeLine.write
  split_ifs with hcase
  · obtain ⟨hwriting, hplaced⟩ := h.recorded hn hcase.1 hcase.2 hdisk
    have hbounds := (h.line.timeOf_bounds p.1 p.2.header.timestampNs).2
    refine ⟨hwriting, ⟨le_max_left .., max_le ?_ hbounds⟩, .inr hplaced⟩
    omega
  · rw [← h.lidarIds] at hcase
    obtain ⟨hresult, stats, hframes, hstate⟩ :=
      Lvx2Writer.write_of_not_recorded h.isOpen hcase
    rw [hstate]
    refine ⟨h.ignored hframes, ⟨le_rfl, by omega⟩, .inl ⟨?_, hframes, rfl⟩⟩
    unfold Lvx2Writer.placement
    split
    · rename_i hok
      exact absurd hok hresult
    · rfl

theorem Goes.slot_le {frames : ℕ} {frameSlot : Option UInt64} {e : Lvx2Writer.Placement}
    (h : Goes frames frameSlot e) : e.slot ≤ e.frameSlot := by
  unfold Goes at h
  split at h
  · exact h.2.symm ▸ UInt64.le_refl _
  · obtain ⟨hle, -, heq⟩ | ⟨-, -, heq⟩ := h
    · exact heq.symm ▸ hle
    · exact heq.symm ▸ UInt64.le_refl _

/-- **The calls of `write`**, when no file operation fails. -/
theorem writeAll (h : Writing devices frameDurationMs n l w)
    {writes : List (ℕ × DataPacketView)} (hn : n + writes.length < 9000000000)
    (hdisk : (w.writeAll writes).2.disk.failed = false) :
    Writing devices frameDurationMs (n + writes.length) (writes.foldl (TimeLine.write devices) l)
        (w.writeAll writes).2 ∧
      (w.placements writes).IsChain Lvx2Writer.Placement.Before ∧
      (∀ e ∈ (w.placements writes).head?, Goes w.stats.frames w.frameSlot e) ∧
      ∀ e ∈ w.placements writes, e.slot ≤ e.frameSlot := by
  induction writes generalizing n l w with
  | nil => exact ⟨h, .nil, nofun, nofun⟩
  | cons p writes ih =>
    rw [List.length_cons] at hn ⊢
    have hfirst : (w.write p.1 p.2).2.disk.failed = false := by
      rw [← Bool.not_eq_true]
      intro hfailed
      exact absurd (Lvx2Writer.writeAll_failed writes hfailed) (Bool.eq_false_iff.mp hdisk)
    obtain ⟨hwriting, -, hplaced⟩ := h.write (by omega) p hfirst
    have hrest : ((w.write p.1 p.2).2.writeAll writes).2.disk.failed = false := hdisk
    obtain ⟨hfinal, hchain, hhead, hslots⟩ := ih hwriting (by omega) hrest
    rw [Nat.add_right_comm, Nat.add_assoc] at hfinal
    refine ⟨hfinal, ?_⟩
    rw [Lvx2Writer.placements]
    obtain ⟨hnone, hframes, hframeSlot⟩ | ⟨e, hsome, hgoes, hframeSlot, hframes⟩ := hplaced
    · rw [hnone]
      rw [hframes, hframeSlot] at hhead
      exact ⟨hchain, hhead, hslots⟩
    · rw [hsome]
      rw [hframes, hframeSlot] at hhead
      refine ⟨List.isChain_cons.mpr ⟨hhead, hchain⟩, ?_, ?_⟩
      · intro e' mem
        obtain rfl := Option.some.inj mem
        exact hgoes
      · intro e' mem
        obtain rfl | mem := List.mem_cons.mp mem
        · exact hgoes.slot_le
        · exact hslots e' mem

/-- The frames of the file once the open frame has moved there: no more than the line has
slots. -/
theorem close (h : Writing devices frameDurationMs n l w)
    (hdisk : w.close.2.disk.failed = false) :
    w.close.2.stats.frames ≤ 1 + TimeLine.slotOf frameDurationMs l.latest ∧
      w.close.2.latestNs.toInt = l.latest := by
  have hopen : ¬w.isOpen = false := by
    rw [h.isOpen]
    decide
  rw [Lvx2Writer.close, if_neg hopen] at hdisk ⊢
  dsimp only at hdisk ⊢
  rw [Disk.fflush_of_not_failed hdisk] at hdisk
  obtain ⟨e, disk, hflush, hfailed, -⟩ | ⟨hempty, hflush⟩ | ⟨hne, disk, -, hflush⟩ :=
    w.flushFrame_cases
  · rw [hflush] at hdisk
    exact absurd (hfailed.symm.trans hdisk) (by decide)
  · rw [hflush]
    refine ⟨?_, h.line.latest⟩
    cases hslot : w.frameSlot with
    | none =>
      rw [(h.first hslot).1]
      exact Nat.zero_le _
    | some s => exact absurd hempty (h.later s hslot).1
  · rw [hflush]
    refine ⟨?_, h.line.latest⟩
    cases hslot : w.frameSlot with
    | none => exact absurd (h.first hslot).2 hne
    | some s =>
      obtain ⟨-, hframes, hbelow⟩ := h.later s hslot
      dsimp only
      omega

end Writing

/-! ## A whole recording -/

/-- A writer that has opened a file is at the start of its time line. -/
theorem writing_open {devices : List Lvx2DeviceInfo} {frameDurationMs : UInt32} {disk : Disk}
    {path : String} (h : ((Lvx2Writer.new disk).open path devices frameDurationMs).1 = .ok ()) :
    Writing devices frameDurationMs 0 {}
        ((Lvx2Writer.new disk).open path devices frameDurationMs).2 ∧
      ((Lvx2Writer.new disk).open path devices frameDurationMs).2.frameSlot = none := by
  unfold Lvx2Writer.open at *
  split_ifs at h ⊢
  obtain ⟨errno, disk₁, hfopen, -⟩ | ⟨disk₁, hfopen, -⟩ := disk.fopen_cases
  · simp [Lvx2Writer.new, hfopen] at h
  · simp only [Lvx2Writer.new, hfopen] at h ⊢
    obtain ⟨e, disk₂, hheader, -⟩ | ⟨disk₂, hheader, -⟩ :=
      ((Lvx2Writer.new disk).start disk₁ devices frameDurationMs).writeBytes_cases
        (encodeFileHeader devices frameDurationMs)
    · rw [Lvx2Writer.new] at hheader
      rw [hheader] at h
      exact absurd h (by simp)
    · rw [Lvx2Writer.new] at hheader
      rw [hheader]
      refine ⟨⟨rfl, List.length_map _, List.length_replicate, rfl,
        ⟨⟨rfl, fun i hi => ?_⟩, le_rfl, by simp, by simp⟩, fun _ => ⟨rfl, rfl⟩,
        fun s hs => absurd hs (Option.some_ne_none s).symm⟩, rfl⟩
      show ((List.replicate devices.length ({} : Lvx2Writer.DeviceClock)).getD i {}).base = none
      rw [List.getD_eq_getElem?_getD, List.getElem?_replicate]
      split_ifs <;> rfl

theorem Lvx2Writer.writeAll_append (w : Lvx2Writer) (before after : List (ℕ × DataPacketView)) :
    (w.writeAll (before ++ after)).2 = ((w.writeAll before).2.writeAll after).2 := by
  induction before generalizing w with
  | nil => rfl
  | cons p before ih => exact ih (w.write p.1 p.2).2

/-- A disk that has not failed after some calls of `write` had not failed before. -/
theorem Lvx2Writer.not_failed_of_isPrefix {w : Lvx2Writer}
    {before writes : List (ℕ × DataPacketView)} (h : before <+: writes)
    (hdisk : (w.writeAll writes).2.disk.failed = false) :
    (w.writeAll before).2.disk.failed = false := by
  obtain ⟨after, rfl⟩ := h
  rw [Lvx2Writer.writeAll_append] at hdisk
  rw [← Bool.not_eq_true]
  intro hfailed
  exact absurd (Lvx2Writer.writeAll_failed after hfailed) (Bool.eq_false_iff.mp hdisk)

/-- **The time line of a recording only moves forward**, at most a second with each write,
and the writer has it exactly.  The packages go to frames whose slots increase; the first
package of a frame gives it its slot, and no other has a later one.  There are no more
frames than the line has slots. -/
theorem time_line_moves_forward {devices : List Lvx2DeviceInfo} {frameDurationMs : UInt32}
    {disk : Disk} {path : String} {writes : List (ℕ × DataPacketView)}
    (hdevices : devices ≠ []) (hcount : devices.length ≤ 255) (hduration : frameDurationMs ≠ 0)
    (hfew : writes.length < 9000000000)
    (hdisk : (record disk path devices frameDurationMs writes).writer.disk.failed = false) :
    let opened := ((Lvx2Writer.new disk).open path devices frameDurationMs).2
    let recording := record disk path devices frameDurationMs writes
    (∀ before p, before ++ [p] <+: writes →
      (opened.writeAll before).2.latestNs.toInt ≤
          (opened.writeAll (before ++ [p])).2.latestNs.toInt ∧
        (opened.writeAll (before ++ [p])).2.latestNs.toInt ≤
          (opened.writeAll before).2.latestNs.toInt + 1000000000) ∧
    (∀ before, before <+: writes →
      (before.foldl (TimeLine.write devices) {}).Exact (opened.writeAll before).2) ∧
    (opened.placements writes).IsChain Lvx2Writer.Placement.Before ∧
    (∀ e ∈ (opened.placements writes).head?, e.frame = 0 ∧ e.frameSlot = e.slot) ∧
    (∀ e ∈ opened.placements writes, e.slot ≤ e.frameSlot) ∧
    recording.writer.stats.frames ≤
      1 + recording.writer.latestNs.toInt.toNat / (frameDurationMs.toNat * 1000000) := by
  intro opened recording
  have hwrote : (opened.writeAll writes).2.disk.failed = false := by
    rw [← Bool.not_eq_true]
    intro hfailed
    exact absurd (Lvx2Writer.close_failed hfailed) (Bool.eq_false_iff.mp hdisk)
  obtain ⟨hstart, hnone⟩ := writing_open (recorded_file hdevices hcount hduration hdisk).1
  -- The state after each prefix of the calls.
  have hwriting : ∀ before, before <+: writes → Writing devices frameDurationMs
      (0 + before.length) (before.foldl (TimeLine.write devices) {})
      (opened.writeAll before).2 := by
    intro before hbefore
    have hlength := hbefore.length_le
    exact (hstart.writeAll (by omega) (Lvx2Writer.not_failed_of_isPrefix hbefore hwrote)).1
  obtain ⟨hfinal, hchain, hhead, hslots⟩ := hstart.writeAll (by omega) hwrote
  rw [hnone, (hstart.first hnone).1] at hhead
  refine ⟨fun before p hp => ?_, fun before hbefore => (hwriting before hbefore).line.toExact,
    hchain, hhead, hslots, ?_⟩
  · have hbefore : before <+: writes := (List.prefix_append before [p]).trans hp
    have hlength := hp.length_le
    rw [List.length_append, List.length_singleton] at hlength
    have hstate := Lvx2Writer.writeAll_append opened before [p]
    have hnot := Lvx2Writer.not_failed_of_isPrefix hp hwrote
    rw [hstate] at hnot
    obtain ⟨hnext, hmoved, -⟩ := (hwriting before hbefore).write (by omega) p hnot
    rw [hstate, (hwriting before hbefore).line.latest]
    have hlatest : ((opened.writeAll before).2.writeAll [p]).2.latestNs.toInt = _ :=
      hnext.line.latest
    rw [hlatest]
    exact hmoved
  · obtain ⟨hframes, hlatest⟩ := hfinal.close hdisk
    have hnewest : recording.writer.latestNs.toInt = _ := hlatest
    rw [hnewest]
    exact hframes

/-- Two devices, whose packets are 150 ms apart. -/
theorem time_line_moves_forward_two_devices :
    let opened := ((Lvx2Writer.new smallDisk).open "two.lvx2" twoDevices 50).2
    (∀ before p, before ++ [p] <+: mixedWrites →
      (opened.writeAll before).2.latestNs.toInt ≤
          (opened.writeAll (before ++ [p])).2.latestNs.toInt ∧
        (opened.writeAll (before ++ [p])).2.latestNs.toInt ≤
          (opened.writeAll before).2.latestNs.toInt + 1000000000) ∧
    (∀ before, before <+: mixedWrites →
      (before.foldl (TimeLine.write twoDevices) {}).Exact (opened.writeAll before).2) ∧
    (opened.placements mixedWrites).IsChain Lvx2Writer.Placement.Before ∧
    (∀ e ∈ (opened.placements mixedWrites).head?, e.frame = 0 ∧ e.frameSlot = e.slot) ∧
    (∀ e ∈ opened.placements mixedWrites, e.slot ≤ e.frameSlot) ∧
    twoDeviceRecording.writer.stats.frames ≤
      1 + twoDeviceRecording.writer.latestNs.toInt.toNat / ((50 : UInt32).toNat * 1000000) := by
  have hdisk := disk_twoDeviceRecording
  unfold twoDeviceRecording at hdisk ⊢
  exact time_line_moves_forward (by decide) (by decide) (by decide) (by decide) hdisk

end LivoxMid360
