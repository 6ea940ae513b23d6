import LivoxMid360.FrameAssembler

/-!
# The signed arithmetic of the host clock

`TimeMapper::map` relates the free-running clock of the LiDAR to the host by a signed
difference: `offset = receive time - timestamp`, measured at one packet and added to the
timestamps of all later ones.  Both operations are on `std::int64_t`, where an overflow is
undefined, while the timestamp is any 64-bit value the network delivers.

`overflows` says whether a call overflows, with the exact results of its operations.
`InStep` is the reading of a history that the code relies on: every unsynchronised packet
is close enough to the packet its offset was measured at.  The two are the same
(`map_overflow_free_iff`), and timestamps and receive times that are together below
`2 ^ 63` are enough.  `map_overflows` is a packet that `parse_data_packet` accepts and
whose mapping overflows at once.
-/

namespace LivoxMid360.TimeMapper

/-! ## Overflow -/

/-- The range of `std::int64_t`. -/
def InRange (x : ℤ) : Prop :=
  -2 ^ 63 ≤ x ∧ x < 2 ^ 63

instance (x : ℤ) : Decidable (InRange x) :=
  inferInstanceAs (Decidable (_ ∧ _))

/-- `static_cast<std::int64_t>` of a time. -/
def signed (t : UInt64) : ℤ :=
  t.toInt64.toInt

/-- Whether a signed addition or subtraction of `map` overflows. -/
def overflows (m : TimeMapper) (h : DataPacketHeader) (recvTimeNs : UInt64) : Bool :=
  match m.policy with
  | .kLidar => false
  | .kHostReceive => false
  | .kHostOffsetOnce =>
    if h.timeType ≠ .kNoSync then false
    else
      match m.offset, m.synced with
      | some offset, false => !decide (InRange (signed h.timestampNs + offset.toInt))
      | _, _ =>
        !decide (InRange (signed recvTimeNs - signed h.timestampNs)) ||
          !decide (InRange (signed h.timestampNs +
            (recvTimeNs.toInt64 - h.timestampNs.toInt64).toInt))

/-- A difference in range is exact. -/
theorem toInt_sub_eq {a b : UInt64} (h : InRange (signed a - signed b)) :
    (a.toInt64 - b.toInt64).toInt = signed a - signed b := by
  rw [Int64.toInt_sub]
  refine Int.bmod_eq_of_le ?_ ?_
  · exact h.1
  · exact h.2

theorem signed_inRange (t : UInt64) : InRange (signed t) :=
  ⟨t.toInt64.le_toInt, t.toInt64.toInt_lt⟩

/-- Below `2 ^ 63` the cast keeps the value. -/
theorem signed_of_lt {t : UInt64} (h : t.toNat < 2 ^ 63) : signed t = t.toNat := by
  refine BitVec.toInt_eq_toNat_of_lt ?_
  show 2 * t.toNat < 2 ^ 64
  omega

/-! ## Histories -/

inductive Call where
  | map (h : DataPacketHeader) (recvTimeNs : UInt64)
  | reset

/-- No call of a sequence overflows. -/
def NoOverflow (m : TimeMapper) : List Call → Prop
  | [] => True
  | .map h recvTimeNs :: calls =>
    m.overflows h recvTimeNs = false ∧ NoOverflow (m.map h recvTimeNs).2 calls
  | .reset :: calls => NoOverflow m.reset calls

/-- Every packet that measures has its receive time and its timestamp in reach of each
other, and every later unsynchronised packet stays in reach.  `measured` is the receive
time and the timestamp of the packet that measured last, `synced` whether a synchronised
packet came since. -/
def InStep (measured : Option (UInt64 × UInt64)) (synced : Bool) : List Call → Prop
  | [] => True
  | .reset :: calls => InStep none false calls
  | .map h recvTimeNs :: calls =>
    if h.timeType ≠ .kNoSync then InStep measured true calls
    else
      match measured, synced with
      | some (recv, timestamp), false =>
        InRange (signed h.timestampNs + (signed recv - signed timestamp)) ∧
          InStep measured false calls
      | _, _ =>
        InRange (signed recvTimeNs - signed h.timestampNs) ∧
          InStep (some (recvTimeNs, h.timestampNs)) false calls

/-- The mapper of a history. -/
def ofHistory (measured : Option (UInt64 × UInt64)) (synced : Bool) : TimeMapper where
  policy := .kHostOffsetOnce
  offset := measured.map fun p => p.1.toInt64 - p.2.toInt64
  synced

section Calls

variable (measured : Option (UInt64 × UInt64)) (synced : Bool) {h : DataPacketHeader}
  (recvTimeNs : UInt64)

/-- A synchronised packet is not computed with. -/
theorem call_synced (hsync : h.timeType ≠ .kNoSync) :
    (ofHistory measured synced).overflows h recvTimeNs = false ∧
      ((ofHistory measured synced).map h recvTimeNs).2 = ofHistory measured true := by
  constructor
  · simp [overflows, ofHistory, hsync]
  · simp [TimeMapper.map, ofHistory, hsync]

/-- A packet that measures: if the difference is in range, the sum is the receive time. -/
theorem call_measuring {measured : Option (UInt64 × UInt64)} {synced : Bool}
    (hsync : h.timeType = .kNoSync) (hagain : measured = none ∨ synced = true) :
    ((ofHistory measured synced).overflows h recvTimeNs = false ↔
        InRange (signed recvTimeNs - signed h.timestampNs)) ∧
      ((ofHistory measured synced).map h recvTimeNs).2 =
        ofHistory (some (recvTimeNs, h.timestampNs)) false := by
  have hsum : InRange (signed recvTimeNs - signed h.timestampNs) →
      InRange (signed h.timestampNs + (recvTimeNs.toInt64 - h.timestampNs.toInt64).toInt) := by
    intro hrange
    rw [toInt_sub_eq hrange, add_sub_cancel]
    exact signed_inRange recvTimeNs
  -- the addition behind the subtraction gives the receive time back, so it adds no condition
  have hiff : (!decide (InRange (signed recvTimeNs - signed h.timestampNs)) ||
      !decide (InRange (signed h.timestampNs +
        (recvTimeNs.toInt64 - h.timestampNs.toInt64).toInt))) = false ↔
      InRange (signed recvTimeNs - signed h.timestampNs) := by
    rw [Bool.or_eq_false_iff, Bool.not_eq_false', Bool.not_eq_false', decide_eq_true_eq,
      decide_eq_true_eq]
    exact and_iff_left_of_imp hsum
  rcases hagain with rfl | rfl
  · constructor
    · simp only [overflows, ofHistory, hsync, Option.map_none]
      exact hiff
    · simp [TimeMapper.map, ofHistory, hsync]
  · cases measured with
    | none =>
      constructor
      · simp only [overflows, ofHistory, hsync, Option.map_none]
        exact hiff
      · simp [TimeMapper.map, ofHistory, hsync]
    | some =>
      constructor
      · simp only [overflows, ofHistory, hsync, Option.map_some]
        exact hiff
      · simp [TimeMapper.map, ofHistory, hsync]

/-- A packet that is mapped with an offset measured before. -/
theorem call_measured {p : UInt64 × UInt64} (hsync : h.timeType = .kNoSync)
    (hrange : InRange (signed p.1 - signed p.2)) :
    ((ofHistory (some p) false).overflows h recvTimeNs = false ↔
        InRange (signed h.timestampNs + (signed p.1 - signed p.2))) ∧
      ((ofHistory (some p) false).map h recvTimeNs).2 = ofHistory (some p) false := by
  constructor
  · simp only [overflows, ofHistory, hsync, Option.map_some, toInt_sub_eq hrange]
    simp
  · simp [TimeMapper.map, ofHistory, hsync]

/-- A packet measures, or it is mapped with the offset of an earlier one. -/
theorem measures_or_measured :
    (measured = none ∨ synced = true) ∨ ∃ p, measured = some p ∧ synced = false := by
  cases measured with
  | none => exact .inl (.inl rfl)
  | some p =>
    cases synced with
    | true => exact .inl (.inr rfl)
    | false => exact .inr ⟨p, rfl, rfl⟩

theorem inStep_synced (hsync : h.timeType ≠ .kNoSync) (calls : List Call) :
    InStep measured synced (.map h recvTimeNs :: calls) ↔ InStep measured true calls := by
  simp only [InStep, ne_eq, hsync, not_false_eq_true, if_true]

theorem inStep_measuring {measured : Option (UInt64 × UInt64)} {synced : Bool}
    (hsync : h.timeType = .kNoSync) (hagain : measured = none ∨ synced = true)
    (calls : List Call) :
    InStep measured synced (.map h recvTimeNs :: calls) ↔
      InRange (signed recvTimeNs - signed h.timestampNs) ∧
        InStep (some (recvTimeNs, h.timestampNs)) false calls := by
  rcases hagain with rfl | rfl
  · simp only [InStep, hsync, ne_eq, not_true_eq_false, if_false]
  · cases measured <;> simp only [InStep, hsync, ne_eq, not_true_eq_false, if_false]

theorem inStep_measured {p : UInt64 × UInt64} (hsync : h.timeType = .kNoSync)
    (calls : List Call) :
    InStep (some p) false (.map h recvTimeNs :: calls) ↔
      InRange (signed h.timestampNs + (signed p.1 - signed p.2)) ∧ InStep (some p) false calls := by
  simp only [InStep, hsync, ne_eq, not_true_eq_false, if_false]

end Calls

/-- The packets are in step exactly when no call overflows. -/
theorem noOverflow_iff {measured : Option (UInt64 × UInt64)} (synced : Bool)
    (hmeasured : ∀ p ∈ measured, InRange (signed p.1 - signed p.2)) (calls : List Call) :
    NoOverflow (ofHistory measured synced) calls ↔ InStep measured synced calls := by
  induction calls generalizing measured synced with
  | nil => exact Iff.rfl
  | cons call calls ih =>
    cases call with
    | reset => exact @ih none false (by simp)
    | map h recvTimeNs =>
      rw [NoOverflow]
      by_cases hsync : h.timeType = .kNoSync
      · rcases measures_or_measured measured synced with hagain | ⟨p, rfl, rfl⟩
        · -- A packet that measures starts a new history.
          obtain ⟨hiff, hmap⟩ := call_measuring recvTimeNs hsync hagain
          rw [inStep_measuring recvTimeNs hsync hagain, hiff, hmap]
          refine and_congr_right fun hrange => ih false ?_
          simpa using hrange
        · obtain ⟨hiff, hmap⟩ := call_measured recvTimeNs hsync (hmeasured p rfl)
          rw [inStep_measured recvTimeNs hsync, hiff, hmap, ih false hmeasured]
      · obtain ⟨hnone, hmap⟩ := call_synced measured synced recvTimeNs hsync
        rw [inStep_synced measured synced recvTimeNs hsync, hmap, hnone, ih true hmeasured]
        exact and_iff_right rfl

/-- Timestamps below `limit` and receive times so far below `2 ^ 63` are in step. -/
theorem inStep_of_lt {limit : ℕ} {measured : Option (UInt64 × UInt64)} (synced : Bool)
    (hmeasured : ∀ p ∈ measured, p.1.toNat + limit ≤ 2 ^ 63 ∧ p.2.toNat < limit)
    {calls : List Call} (hcalls : ∀ h recvTimeNs, .map h recvTimeNs ∈ calls →
      recvTimeNs.toNat + limit ≤ 2 ^ 63 ∧ h.timestampNs.toNat < limit) :
    InStep measured synced calls := by
  induction calls generalizing measured synced with
  | nil => exact trivial
  | cons call calls ih =>
    have hrest : ∀ h recvTimeNs, .map h recvTimeNs ∈ calls →
        recvTimeNs.toNat + limit ≤ 2 ^ 63 ∧ h.timestampNs.toNat < limit :=
      fun h recvTimeNs mem => hcalls h recvTimeNs (List.mem_cons_of_mem _ mem)
    cases call with
    | reset => exact ih false (by simp) hrest
    | map h recvTimeNs =>
      obtain ⟨hrecv, htimestamp⟩ := hcalls h recvTimeNs List.mem_cons_self
      have hself : InRange (signed recvTimeNs - signed h.timestampNs) := by
        rw [InRange, signed_of_lt (by omega), signed_of_lt (by omega)]
        omega
      have hmeasure : InStep (some (recvTimeNs, h.timestampNs)) false calls :=
        ih false (by simpa using ⟨hrecv, htimestamp⟩) hrest
      by_cases hsync : h.timeType = .kNoSync
      · rcases measures_or_measured measured synced with hagain | ⟨p, rfl, rfl⟩
        · exact (inStep_measuring recvTimeNs hsync hagain calls).mpr ⟨hself, hmeasure⟩
        · obtain ⟨hrecv', htimestamp'⟩ := hmeasured p rfl
          refine (inStep_measured recvTimeNs hsync calls).mpr ⟨?_, ih false hmeasured hrest⟩
          rw [InRange, signed_of_lt (by omega), signed_of_lt (t := p.1) (by omega),
            signed_of_lt (t := p.2) (by omega)]
          omega
      · rw [inStep_synced measured synced recvTimeNs hsync]
        exact ih true hmeasured hrest

/-- **When the mapping of timestamps overflows.**  A sequence of packets and rebases is
mapped without a signed overflow exactly when every unsynchronised packet is in step with
the packet its offset was measured at.  It is enough that the greatest timestamp and the
greatest receive time are together below `2 ^ 63`. -/
theorem map_overflow_free_iff (calls : List Call) :
    (NoOverflow { policy := .kHostOffsetOnce } calls ↔ InStep none false calls) ∧
    ∀ limit : ℕ, (∀ h recvTimeNs, .map h recvTimeNs ∈ calls →
        recvTimeNs.toNat + limit ≤ 2 ^ 63 ∧ h.timestampNs.toNat < limit) →
      NoOverflow { policy := .kHostOffsetOnce } calls := by
  have hiff : NoOverflow { policy := .kHostOffsetOnce } calls ↔ InStep none false calls :=
    @noOverflow_iff none false (by simp) calls
  exact ⟨hiff, fun limit hcalls => hiff.mpr (inStep_of_lt false (by simp) hcalls)⟩

/-- Times of up to `2 ^ 62` are in step. -/
theorem map_overflow_free_far : NoOverflow { policy := .kHostOffsetOnce }
      [.map { timestampNs := 0x3FFFFFFFFFFFFFFF } 0x4000000000000000] := by
  refine (map_overflow_free_iff _).2 (2 ^ 62) ?_
  intro h recvTimeNs mem
  obtain ⟨rfl, rfl⟩ := Call.map.inj (List.mem_singleton.mp mem)
  decide +kernel

/-! ## A packet that overflows -/

/-- A data packet of one point without a CRC, whose timestamp is `2 ^ 63`. -/
def farPacket : List UInt8 :=
  [0, 50, 0, 0, 0, 1, 0, 0, 0, 0, 1, 0] ++ List.replicate 16 0 ++ [0, 0, 0, 0, 0, 0, 0, 128] ++
    List.replicate 14 0

/-- It is accepted, and the first mapping subtracts the smallest `std::int64_t` from the
receive time. -/
theorem map_overflows :
    ∃ v, parseDataPacket farPacket = .ok v ∧ v.header.timeType = .kNoSync ∧
      v.header.timestampNs = 0x8000000000000000 ∧
      overflows { policy := .kHostOffsetOnce } v.header 0 = true ∧
      ¬NoOverflow { policy := .kHostOffsetOnce } [.map v.header 0] := by
  have hoverflows : overflows { policy := .kHostOffsetOnce } (readDataPacketHeader farPacket) 0 =
      true := by decide +kernel
  refine ⟨⟨readDataPacketHeader farPacket, LittleEndian.slice farPacket 36 14⟩,
    ?_, ?_, ?_, hoverflows, ?_⟩
  · refine parseDataPacket_eq_ok_iff.mpr ?_
    constructor <;> decide +kernel
  · decide +kernel
  · decide +kernel
  · rintro ⟨hnone, -⟩
    exact absurd (hoverflows.symm.trans hnone) (by decide)

end LivoxMid360.TimeMapper
