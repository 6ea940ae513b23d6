import LivoxMid360.FrameAssembler
import LivoxMid360.Lib.HighWater
import Mathlib.Algebra.GroupWithZero.Nat

/-!
# The drop counter refines an unbounded one

`udp_cnt` has sixteen bits.  Behind it the LiDAR numbers its packets without a bound:
`wire s` is what a packet with the number `s` carries.  `DropCounter` sees the wire values
only, and from a packet to the next it has to tell a step forward with losses from a
straggler.

It does so as long as every packet is near the highest number seen so far (`InReach`): at
most 32769 ahead of it, or at most 32766 behind.  Then one packet does to the counter what
it does to the high-water mark (`observe_wire`), and a sequence of them leaves the mark
(`observeAll_wire`).  What is reported as dropped are exactly the numbers that the mark has
passed (`dropCounter_refines`).
-/

namespace LivoxMid360.DropCounter

open HighWater

/-- The sixteen bits a packet carries of its number. -/
def wire (s : ℤ) : UInt16 :=
  UInt16.ofNat (s % 65536).toNat

/-- What the counter reports for a sequence of packets of one frame. -/
def observeAll (d : DropCounter) : List UInt16 → List Result × DropCounter
  | [] => ([], d)
  | udpCnt :: rest =>
    let (result, d) := d.observe udpCnt false
    let (results, d) := d.observeAll rest
    (result :: results, d)

/-- All that was reported as dropped. -/
def totalDropped (results : List Result) : ℕ :=
  (results.map fun r => r.dropped.toNat).sum

/-- Every packet is near the highest number that came before it. -/
def InReach (m : ℤ) : List ℤ → Prop
  | [] => True
  | s :: rest => -32766 ≤ s - m ∧ s - m ≤ 32769 ∧ InReach (raise m s) rest

instance decidableInReach : ∀ (m : ℤ) (arrivals : List ℤ), Decidable (InReach m arrivals)
  | _, [] => inferInstanceAs (Decidable True)
  | m, s :: rest =>
    have := decidableInReach (raise m s) rest
    inferInstanceAs (Decidable (-32766 ≤ s - m ∧ s - m ≤ 32769 ∧ InReach (raise m s) rest))

/-! ## One packet -/

theorem toNat_wire (s : ℤ) : ((wire s).toNat : ℤ) = s % 65536 := by
  have hpos : 0 ≤ s % 65536 := Int.emod_nonneg s (by decide)
  have hlt : s % 65536 < 65536 := Int.emod_lt_of_pos s (by decide)
  rw [wire, UInt16.toNat_ofNat_of_lt' (by rw [UInt16.size]; omega), Int.toNat_of_nonneg hpos]

/-- The gap on the wire is the true gap in sixteen bits. -/
theorem toNat_gap_wire (m s : ℤ) : ((gap (wire m) (wire s)).toNat : ℤ) = (s - m - 1) % 65536 := by
  have hm := toNat_wire m
  have hs := toNat_wire s
  have hone : (1 : UInt16).toNat = 1 := rfl
  rw [gap, UInt16.toNat_sub, UInt16.toNat_add, hone]
  omega

variable {m s : ℤ}

/-- A packet ahead of the mark: the numbers it skips are reported. -/
theorem observe_wire_ahead (hlt : m < s) (hnear : s - m ≤ 32769) :
    ∃ r, observe ⟨true, wire m⟩ (wire s) false = (r, ⟨true, wire s⟩) ∧
      r.reordered = false ∧ (r.dropped.toNat : ℤ) = s - m - 1 := by
  have hgap : ((gap (wire m) (wire s)).toNat : ℤ) = s - m - 1 := by
    rw [toNat_gap_wire, Int.emod_eq_of_lt (by omega) (by omega)]
  have hback : ¬gap (wire m) (wire s) > 0x8000 := by
    have hword : (0x8000 : UInt16).toNat = 32768 := rfl
    rw [gt_iff_lt, UInt16.lt_iff_toNat_lt, hword]
    omega
  simp only [observe, Bool.true_eq_false, if_false, Bool.false_eq_true, and_false, or_false]
  split_ifs with hzero
  · refine ⟨{}, rfl, rfl, ?_⟩
    rw [← hgap, hzero]
    rfl
  · exact ⟨_, rfl, rfl, by rw [UInt16.toNat_toUInt32, hgap]⟩

/-- A packet at the mark or behind it: a straggler or a duplicate. -/
theorem observe_wire_behind (hle : s ≤ m) (hnear : -32766 ≤ s - m) :
    observe ⟨true, wire m⟩ (wire s) false =
      ({ dropped := 0, reordered := true }, ⟨true, wire m⟩) := by
  -- behind the mark the gap wraps, to no less than 32769
  have hgap : ((gap (wire m) (wire s)).toNat : ℤ) = s - m - 1 + 65536 := by
    rw [toNat_gap_wire, ← Int.add_emod_right, Int.emod_eq_of_lt (by omega) (by omega)]
  have hback : gap (wire m) (wire s) > 0x8000 := by
    have hword : (0x8000 : UInt16).toNat = 32768 := rfl
    rw [gt_iff_lt, UInt16.lt_iff_toNat_lt, hword]
    omega
  have hzero : gap (wire m) (wire s) ≠ 0 := by
    intro hzero
    rw [hzero] at hback
    exact absurd hback (by decide)
  simp only [observe, Bool.true_eq_false, if_false, Bool.false_eq_true, and_false, or_false,
    if_neg hzero, if_pos hback]

/-- **One packet** does to the counter what its number does to the mark. -/
theorem observe_wire (hlow : -32766 ≤ s - m) (hhigh : s - m ≤ 32769) :
    ∃ r, observe ⟨true, wire m⟩ (wire s) false = (r, ⟨true, wire (raise m s)⟩) ∧
      (r.reordered = true ↔ s ≤ m) ∧
      (r.dropped.toNat : ℤ) = raise m s - m - if m < s then 1 else 0 := by
  rcases lt_or_ge m s with hlt | hle
  · obtain ⟨r, hobserve, hreordered, hdropped⟩ := observe_wire_ahead hlt hhigh
    rw [raise_of_lt hlt, if_pos hlt]
    refine ⟨r, hobserve, ?_, hdropped⟩
    simp [hreordered, hlt]
  · rw [raise_of_le hle, if_neg (not_lt.mpr hle)]
    refine ⟨_, observe_wire_behind hle hlow, ?_, ?_⟩
    · exact iff_of_true rfl hle
    · simp

/-! ## Sequences of packets -/

theorem observeAll_cons (d : DropCounter) (udpCnt : UInt16) (rest : List UInt16) :
    d.observeAll (udpCnt :: rest) =
      ((d.observe udpCnt false).1 :: ((d.observe udpCnt false).2.observeAll rest).1,
        ((d.observe udpCnt false).2.observeAll rest).2) := rfl

/-- The first packet is only remembered. -/
theorem observeAll_first (s : ℤ) (rest : List UInt16) :
    observeAll {} (wire s :: rest) =
      ({} :: (observeAll ⟨true, wire s⟩ rest).1, (observeAll ⟨true, wire s⟩ rest).2) := rfl

theorem totalDropped_cons (r : Result) (results : List Result) :
    totalDropped (r :: results) = r.dropped.toNat + totalDropped results := by
  simp [totalDropped]

theorem inReach_append {pre post : List ℤ} :
    InReach m (pre ++ post) ↔ InReach m pre ∧ InReach (mark m pre) post := by
  induction pre generalizing m with
  | nil => simp [InReach]
  | cons s pre ih => simp only [List.cons_append, InReach, mark_cons, ih, and_assoc]

/-- **A sequence of packets** leaves the mark, and the drops reported are what the mark
moved by beyond one for each packet that raised it. -/
theorem observeAll_wire {arrivals : List ℤ} (h : InReach m arrivals) :
    (observeAll ⟨true, wire m⟩ (arrivals.map wire)).2 = ⟨true, wire (mark m arrivals)⟩ ∧
      (totalDropped (observeAll ⟨true, wire m⟩ (arrivals.map wire)).1 : ℤ) =
        mark m arrivals - m - (raises m arrivals).length := by
  induction arrivals generalizing m with
  | nil => simp [observeAll, totalDropped, raises]
  | cons s arrivals ih =>
    obtain ⟨hlow, hhigh, hrest⟩ := h
    obtain ⟨r, hobserve, -, hdropped⟩ := observe_wire hlow hhigh
    obtain ⟨hstate, htotal⟩ := ih hrest
    have hraises : ((raises m (s :: arrivals)).length : ℤ) =
        (if m < s then 1 else 0) + (raises (raise m s) arrivals).length := by
      rcases lt_or_ge m s with hlt | hle
      · rw [raises_cons_of_lt hlt, raise_of_lt hlt, if_pos hlt, List.length_cons]
        push_cast
        ring
      · rw [raises_cons_of_le hle, raise_of_le hle, if_neg (not_lt.mpr hle), zero_add]
    rw [List.map_cons, observeAll_cons, hobserve, totalDropped_cons, mark_cons, hraises]
    refine ⟨hstate, ?_⟩
    push_cast
    rw [hdropped, htotal]
    ring

/-- **The drop counter refines an unbounded counter.**  Packets with the numbers `first`
and `rest` arrive, each of the later ones near the highest number before it.  After every
packet `last` is the highest number in sixteen bits.  A packet is reported as reordered if
and only if its number is not above the highest one, and the first never is.  The drops
reported are what the highest number has moved by, less one for each packet that raised
it: one for each of the numbers in between that were not seen in order. -/
theorem dropCounter_refines (first : ℤ) (rest : List ℤ) (h : InReach first rest) :
    (∀ seen, seen <+: rest →
      ((observeAll {} ((first :: seen).map wire)).2.last.toNat : ℤ) =
        mark first seen % 65536) ∧
    (observe {} (wire first) false).1.reordered = false ∧
    (∀ seen s later, rest = seen ++ s :: later →
      (((observeAll {} ((first :: seen).map wire)).2.observe (wire s) false).1.reordered = true ↔
        s ≤ mark first seen)) ∧
    (totalDropped (observeAll {} ((first :: rest).map wire)).1 : ℤ) =
      mark first rest - first - (raises first rest).length ∧
    totalDropped (observeAll {} ((first :: rest).map wire)).1 = (missed first rest).length := by
  have hseen : ∀ seen, InReach first seen →
      (observeAll {} ((first :: seen).map wire)).2 = ⟨true, wire (mark first seen)⟩ := by
    intro seen hreach
    rw [List.map_cons, observeAll_first]
    exact (observeAll_wire hreach).1
  have htotal : (totalDropped (observeAll {} ((first :: rest).map wire)).1 : ℤ) =
      mark first rest - first - (raises first rest).length := by
    rw [List.map_cons, observeAll_first, totalDropped_cons, ← (observeAll_wire h).2]
    simp
  refine ⟨?_, rfl, ?_, htotal, ?_⟩
  · rintro seen ⟨later, rfl⟩
    rw [hseen seen (inReach_append.mp h).1]
    exact toNat_wire _
  · rintro seen s later rfl
    obtain ⟨hreach, hlow, hhigh, -⟩ := inReach_append.mp h
    obtain ⟨r, hobserve, hreordered, -⟩ := observe_wire hlow hhigh
    rw [hseen seen hreach, hobserve]
    exact hreordered
  · rw [← Nat.cast_inj (R := ℤ), htotal, length_missed]

/-- Packets around the end of the sixteen bits: one is lost, one comes late, and one comes
twice. -/
def aroundTheWrap : List ℤ := [65535, 65537, 65536, 65537, 65540]

/-- The packets 65536, 65538 and 65539 are not seen in order. -/
theorem dropCounter_refines_around_the_wrap :
    InReach 65534 aroundTheWrap ∧
      totalDropped (observeAll {} ((65534 :: aroundTheWrap).map wire)).1 =
        (missed 65534 aroundTheWrap).length ∧
      missed 65534 aroundTheWrap = [65536, 65538, 65539] := by
  have hreach : InReach 65534 aroundTheWrap := by decide
  refine ⟨hreach, (dropCounter_refines 65534 aroundTheWrap hreach).2.2.2.2, ?_⟩
  decide +kernel

end LivoxMid360.DropCounter
