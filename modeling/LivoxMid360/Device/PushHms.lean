import LivoxMid360.Device.Push
import Mathlib.Data.Finset.Lattice.Fold
import Mathlib.Order.Lattice.Nat

/-!
# The diagnostic codes of the pushes

Key 0x8011 has eight slots, each a code or zero.  `on_push` raises kHms when the sorted
slots differ from the sorted slots it has seen last, so that the order of the slots does
not matter.  Their number does: the comparison is one of multisets, not of sets.

* `hmsSorted_run` is the invariant: the codes that were seen last are those of the merged
  status.
* `highestLevel_eq` identifies the loop over the slots: the highest level of the set of
  active codes.
* `hms_raised_iff` — a push raises kHms exactly when the set of active codes changes,
  provided it does not change how often a code is in the slots while the set stays.
* `repeated_code_raises` — a code that is in one slot and then in two.
-/

namespace LivoxMid360

open LittleEndian ChangeLog

/-! ## Slots and active codes -/

namespace PushState

/-- The raw codes of the merged slots; all zero before the first push that carries them. -/
def slots (s : PushState) : List UInt32 :=
  match s.field LidarStatus.hmsCode with
  | some hms => hms.toList.map HmsCode.raw
  | none => List.replicate 8 0

/-- The set of active codes. -/
def activeCodes (s : PushState) : Finset UInt32 :=
  (s.slots.filter (· ≠ 0)).toFinset

end PushState

def PushEvent.hmsLevel? : PushEvent → Option HmsLevel
  | .hms _ _ level => some level
  | _ => none

/-- The levels of the kHms events. -/
def PushState.hmsLevels (s : PushState) : List HmsLevel :=
  s.events.filterMap PushEvent.hmsLevel?

/-- Two lists of codes are the same when sorted exactly when one is a reordering of the
other. -/
theorem insertionSort_eq_iff (l l' : List UInt32) :
    l.insertionSort (· ≤ ·) = l'.insertionSort (· ≤ ·) ↔ l.Perm l' := by
  constructor
  · intro h
    have hl := (List.perm_insertionSort (· ≤ ·) l).symm
    rw [h] at hl
    exact hl.trans (List.perm_insertionSort (· ≤ ·) l')
  · intro h
    refine List.Perm.eq_of_pairwise (fun a b _ _ => UInt32.le_antisymm)
      (List.pairwise_insertionSort (· ≤ ·) l) (List.pairwise_insertionSort (· ≤ ·) l') ?_
    exact ((List.perm_insertionSort _ l).trans h).trans (List.perm_insertionSort _ l').symm

variable {s : PushState}

/-- Slots that are still empty after a push were empty before. -/
theorem slots_accept_of_none {d : PushDatagram} {values : List KeyValue}
    (h : (s.next d values).hmsCode = none) : (s.accept d values).slots = s.slots := by
  have hafter : (s.accept d values).field LidarStatus.hmsCode = none := h
  have hbefore := hafter
  rw [field_accept LidarStatus.hmsCode (fun _ _ => rfl) (fun _ _ => rfl),
    Option.or_eq_none_iff] at hbefore
  rw [PushState.slots, PushState.slots, hafter, hbefore.2]

theorem slots_accept_of_some {d : PushDatagram} {values : List KeyValue} {hms : Vector HmsCode 8}
    (h : (s.next d values).hmsCode = some hms) :
    (s.accept d values).slots = hms.toList.map HmsCode.raw := by
  have hafter : (s.accept d values).field LidarStatus.hmsCode = some hms := h
  rw [PushState.slots, hafter]

section Detector

variable {s : PushState} (h : s.hmsSorted = s.slots.insertionSort (· ≤ ·))

include h

/-- The detector finds a change exactly when the slots are not a reordering of those before. -/
theorem hmsChange_eq_none_iff (d : PushDatagram) (values : List KeyValue) :
    s.hmsChange (s.next d values) = none ↔ (s.accept d values).slots.Perm s.slots := by
  unfold PushState.hmsChange
  cases hhms : (s.next d values).hmsCode with
  | none => simp [slots_accept_of_none hhms]
  | some hms =>
    rw [slots_accept_of_some hhms, ← insertionSort_eq_iff, ← h]
    change (if sortedCodes hms ≠ s.hmsSorted then some hms else none) = none ↔
      sortedCodes hms = s.hmsSorted
    simp

/-- The invariant of the detector. -/
theorem hmsSorted_accept (d : PushDatagram) (values : List KeyValue) :
    (s.accept d values).hmsSorted = (s.accept d values).slots.insertionSort (· ≤ ·) := by
  change ((s.hmsChange (s.next d values)).map sortedCodes).getD s.hmsSorted = _
  unfold PushState.hmsChange
  cases hhms : (s.next d values).hmsCode with
  | none =>
    rw [slots_accept_of_none hhms, ← h]
    rfl
  | some hms =>
    rw [slots_accept_of_some hhms]
    change _ = sortedCodes hms
    dsimp only
    split
    · rfl
    · rename_i hsame
      exact (not_not.mp hsame).symm

end Detector

theorem hmsSorted_run (ds : List PushDatagram) :
    (PushState.run ds).hmsSorted = (PushState.run ds).slots.insertionSort (· ≤ ·) := by
  induction ds using List.reverseRecOn with
  | nil => rfl
  | append_singleton ds d ih =>
    rw [run_concat, onPush_eq]
    cases acceptedPush d with
    | none => exact ih
    | some values => exact hmsSorted_accept ih d values

/-! ## The level -/

/-- The level of a raw code. -/
def levelOf (raw : UInt32) : ℕ :=
  (decodeHms raw).level.raw.toNat

/-- One turn of the loop. -/
theorem raise_level (level : HmsLevel) {raw : UInt32} (hraw : raw ≠ 0) :
    (if (decodeHms raw).active = true ∧ (decodeHms raw).level.raw > level.raw
      then (decodeHms raw).level else level).raw.toNat = max level.raw.toNat (levelOf raw) := by
  have hactive : (decodeHms raw).active = true := decide_eq_true hraw
  rw [hactive, levelOf]
  simp only [true_and, gt_iff_lt, UInt8.lt_iff_toNat_lt]
  split
  · rename_i hlt
    exact (Nat.max_eq_right hlt.le).symm
  · rename_i hle
    exact (Nat.max_eq_left (not_lt.mp hle)).symm

/-- The loop over the slots finds the highest level of the active codes. -/
theorem foldl_level (codes : List UInt32) (level : HmsLevel) : ((codes.map decodeHms).foldl
        (fun level c => if c.active ∧ c.level.raw > level.raw then c.level else level)
        level).raw.toNat =
      max level.raw.toNat ((codes.filter (· ≠ 0)).toFinset.sup levelOf) := by
  induction codes generalizing level with
  | nil => simp
  | cons raw codes ih =>
    rw [List.map_cons, List.foldl_cons, ih]
    by_cases hraw : raw = 0
    · subst hraw
      simp [HmsCode.active, decodeHms]
    · rw [raise_level level hraw, List.filter_cons_of_pos (by simpa using hraw),
        List.toFinset_cons, Finset.sup_insert, max_assoc]

theorem highestLevel_eq (codes : Vector UInt32 8) :
    (highestLevel (codes.map decodeHms)).raw.toNat =
      (codes.toList.filter (· ≠ 0)).toFinset.sup levelOf := by
  rw [highestLevel, Vector.toList_map, foldl_level]
  simp [HmsLevel.kNone]

theorem raw_map_decodeHms (codes : Vector UInt32 8) :
    (codes.map decodeHms).toList.map HmsCode.raw = codes.toList := by
  rw [Vector.toList_map, List.map_map]
  exact List.map_id _

/-- The merged slots are decoded from raw codes. -/
theorem exists_codes {ds : List PushDatagram} {hms : Vector HmsCode 8}
    (h : (PushState.run ds).field LidarStatus.hmsCode = some hms) :
    ∃ codes : Vector UInt32 8, hms = codes.map decodeHms := by
  rw [(follows_run ds).merged.hmsCode] at h
  obtain ⟨kvs, -, hkvs⟩ := List.mem_map.mp (mem_of_latest h)
  unfold decodeOpt decodeHmsSlots at hkvs
  grind

/-! ## When kHms is raised -/

/-- The kHms event of a push, if any. -/
theorem hmsLevels_accept (s : PushState) (d : PushDatagram) (values : List KeyValue) :
    (s.accept d values).hmsLevels =
      s.hmsLevels ++ ((s.hmsChange (s.next d values)).map highestLevel).toList := by
  rw [PushState.hmsLevels, PushState.filterMap_events_accept]
  simp [PushEvent.hmsLevel?, PushState.hmsLevels, Option.map_eq_bind]

/-- A reordering of the slots keeps the set of active codes. -/
theorem activeCodes_eq_of_perm {s' : PushState} (h : s'.slots.Perm s.slots) :
    s'.activeCodes = s.activeCodes :=
  List.toFinset_eq_of_perm _ _ (h.filter _)

/-- **When kHms is raised.**  For every push after every sequence of datagrams: it raises at
most one kHms event, with the highest level of the set of active codes; and it raises one
exactly when the set has changed, if and only if it does not leave the set as it is and
change how often a code is in the slots. -/
theorem hms_raised_iff (ds : List PushDatagram) (d : PushDatagram) {values : List KeyValue}
    (hd : acceptedPush d = some values) :
    let s := PushState.run ds
    let s' := PushState.run (ds ++ [d])
    ∃ raised : List HmsLevel, s'.hmsLevels = s.hmsLevels ++ raised ∧ raised.length ≤ 1 ∧
      (∀ level ∈ raised, level.raw.toNat = s'.activeCodes.sup levelOf) ∧
      ((raised ≠ [] ↔ s'.activeCodes ≠ s.activeCodes) ↔
        ¬(s'.activeCodes = s.activeCodes ∧ ¬s'.slots.Perm s.slots)) := by
  intro s s'
  have hs' : s' = s.accept d values := by
    change PushState.run (ds ++ [d]) = _
    rw [run_concat, onPush_eq, hd]
  have hchange := hmsChange_eq_none_iff (hmsSorted_run ds) d values
  rw [← hs'] at hchange
  refine ⟨((s.hmsChange (s.next d values)).map highestLevel).toList, ?_, ?_, ?_, ?_⟩
  · rw [hs', hmsLevels_accept]
  · cases s.hmsChange (s.next d values) <;> simp
  · intro level hlevel
    obtain ⟨hms, hhms, rfl⟩ := Option.map_eq_some_iff.mp (Option.mem_toList.mp hlevel)
    have hfield : s'.field LidarStatus.hmsCode = some hms := by
      rw [hs']
      change (s.next d values).hmsCode = some hms
      unfold PushState.hmsChange at hhms
      grind
    obtain ⟨codes, rfl⟩ := exists_codes hfield
    rw [highestLevel_eq, PushState.activeCodes, PushState.slots, hfield]
    dsimp only
    rw [raw_map_decodeHms]
  · have hraised : ((s.hmsChange (s.next d values)).map highestLevel).toList ≠ [] ↔
        ¬s'.slots.Perm s.slots := by
      rw [← hchange]
      cases s.hmsChange (s.next d values) <;> simp
    rw [hraised]
    by_cases hperm : s'.slots.Perm s.slots
    · simp [hperm, activeCodes_eq_of_perm hperm]
    · simp [hperm]

theorem PushState.slots_length (s : PushState) : s.slots.length = 8 := by
  unfold slots
  split
  · rw [List.length_map, Vector.length_toList]
  · rw [List.length_replicate]

/-- With every code in at most one slot, the slots are a reordering of each other as soon
as the sets of active codes are the same. -/
theorem slots_perm_of_distinct {s' : PushState} (hs : (s.slots.filter (· ≠ 0)).Nodup)
    (hs' : (s'.slots.filter (· ≠ 0)).Nodup) (h : s'.activeCodes = s.activeCodes) :
    s'.slots.Perm s.slots := by
  have hactive : (s'.slots.filter (· ≠ 0)).Perm (s.slots.filter (· ≠ 0)) :=
    List.perm_of_nodup_nodup_toFinset_eq hs' hs h
  -- The remaining slots are zeros, and there are eight slots.
  have hzeros (s : PushState) : s.slots.filter (fun a => !decide (a ≠ 0)) =
      List.replicate (8 - (s.slots.filter (· ≠ 0)).length) 0 := by
    have hsplit := List.length_eq_length_filter_add (l := s.slots) fun a => decide (a ≠ 0)
    rw [s.slots_length] at hsplit
    rw [List.eq_replicate_iff]
    refine ⟨by omega, fun a ha => ?_⟩
    simpa using (List.mem_filter.mp ha).2
  have hunused : (s'.slots.filter fun a => !decide (a ≠ 0)).Perm
      (s.slots.filter fun a => !decide (a ≠ 0)) := by
    rw [hzeros, hzeros, hactive.length_eq]
  exact ((List.filter_append_perm _ s'.slots).symm.trans (hactive.append hunused)).trans
    (List.filter_append_perm _ s.slots)

/-- Eight slots, on the wire. -/
def hmsValue (codes : List UInt32) : KeyValue :=
  ⟨Key.kHmsCode.raw, codes.flatMap encodeLe⟩

/-- A push with one active code, and one with none. -/
theorem hms_raised_iff_cleared :
    let first := pushDatagram [hmsValue [0x00010002, 0, 0, 0, 0, 0, 0, 0]]
    let cleared := pushDatagram [hmsValue [0, 0, 0, 0, 0, 0, 0, 0]]
    ∃ raised : List HmsLevel, raised ≠ [] ∧
      (PushState.run [first, cleared]).hmsLevels = (PushState.run [first]).hmsLevels ++ raised := by
  intro first cleared
  have hfirst : acceptedPush first = some _ := acceptedPush_pushDatagram (by decide)
  have hcleared : acceptedPush cleared = some _ := acceptedPush_pushDatagram (by decide)
  have hsets : (PushState.run [first, cleared]).activeCodes ≠
      (PushState.run [first]).activeCodes := by
    simp only [PushState.run, List.foldl_cons, List.foldl_nil, onPush_eq, hfirst, hcleared]
    decide +kernel
  obtain ⟨raised, hlevels, -, -, hiff⟩ := hms_raised_iff [first] cleared hcleared
  exact ⟨raised, (hiff.mpr fun h => hsets h.1).mpr hsets, hlevels⟩

/-- **A repeated code raises kHms** although the set of active codes stays the same. -/
theorem repeated_code_raises :
    let once := pushDatagram [hmsValue [0x00010002, 0, 0, 0, 0, 0, 0, 0]]
    let twice := pushDatagram [hmsValue [0x00010002, 0x00010002, 0, 0, 0, 0, 0, 0]]
    (PushState.run [once, twice]).activeCodes = (PushState.run [once]).activeCodes ∧
      (PushState.run [once, twice]).hmsLevels = [⟨2⟩, ⟨2⟩] ∧
      (PushState.run [once]).hmsLevels = [⟨2⟩] := by
  intro once twice
  have honce : acceptedPush once = some _ := acceptedPush_pushDatagram (by decide)
  have htwice : acceptedPush twice = some _ := acceptedPush_pushDatagram (by decide)
  simp only [PushState.run, List.foldl_cons, List.foldl_nil, onPush_eq, honce, htwice]
  decide +kernel

end LivoxMid360
