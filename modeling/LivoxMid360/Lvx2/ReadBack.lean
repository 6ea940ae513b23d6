import LivoxMid360.Lvx2.Reader

/-!
# Reading the lvx2 format back

What the reader returns on the byte strings of the format, whole or cut at any byte.

* `Cursor.turn_package`, `Cursor.turn_cutPoints` and `Cursor.turn_fileEnd` are the
  turns of `next_packet` at a complete package, at one whose points are cut short, and
  at the end of the file.
* `Reads.body` and `Reads.cutBody` walk the packages of one frame.
* `reads_frames` walks a chain of frames cut at any byte.  The packages returned are
  those that end within the cut (`placedFrames`), and the reader reports a truncated
  file unless the cut is between two frames (`boundaries`).
* `open_encodeFile` is the header and the device list.
-/

namespace LivoxMid360

open LittleEndian Lvx2

/-! ## Reading packages back -/

namespace Lvx2

/-- A package as it is returned from a frame. -/
def packetAt (frameIndex : UInt64) (p : Lvx2Package) : Lvx2Packet :=
  { p with frameIndex }

theorem packageDataType_packageType {p : Lvx2Package} (h : p.Valid) :
    packageDataType (packageType p.dataType) = some p.dataType := by
  rcases h.type with htype | htype <;> rw [htype] <;> rfl

end Lvx2

namespace Lvx2Reader.Cursor

variable {c : Cursor} {p : Lvx2Package} {rest : List UInt8}

/-- The header of the package at `pos`. -/
theorem decode_header_at (h : c.frame.drop c.pos = encodePackageHeader p ++ rest) :
    decodePackageHeader (slice c.frame c.pos kPackageHeaderSize) =
      { p with type := packageType p.dataType, length := UInt32.ofNat p.points.length } := by
  rw [slice, h, List.take_left' (encodePackageHeader_length p),
    decodePackageHeader_encodePackageHeader]

theorem length_at {b : List UInt8} (hpos : c.pos ≤ c.frame.length) (h : c.frame.drop c.pos = b) :
    c.frame.length = c.pos + b.length := by
  rw [← h, List.length_drop]
  omega

/-- A turn at a complete package returns it. -/
theorem turn_package (hdone : c.done = false) (hpos : c.pos ≤ c.frame.length) (hp : p.Valid)
    (h : c.frame.drop c.pos = encodePackage p ++ rest) :
    c.turn = .inr (.ok (some (packetAt c.frameIndex p)),
      { c with pos := c.pos + (encodePackage p).length }) := by
  have hsplit : c.frame.drop c.pos = encodePackageHeader p ++ (p.points ++ rest) := by
    rw [h, encodePackage, List.append_assoc]
  have hlength : c.frame.length = c.pos + (encodePackage p ++ rest).length := length_at hpos h
  rw [List.length_append, encodePackage_length] at hlength
  have hsize : (UInt32.ofNat p.points.length).toNat = p.points.length :=
    UInt32.toNat_ofNat_of_lt' hp.size
  have hpoints : slice c.frame (c.pos + kPackageHeaderSize) p.points.length = p.points := by
    rw [slice, ← List.drop_drop, hsplit, List.drop_left' (encodePackageHeader_length p),
      List.take_left]
  unfold turn
  rw [if_neg (by rw [hdone]; decide), if_neg (by omega), decode_header_at hsplit]
  dsimp only
  rw [packageDataType_packageType hp]
  dsimp only
  rw [hsize, if_neg (not_not.mpr hp.whole), if_neg (by omega), hpoints, encodePackage_length,
    Nat.add_assoc]
  rfl

/-- A turn at a package whose points are cut short ends the file. -/
theorem turn_cutPoints (hdone : c.done = false) (hpos : c.pos ≤ c.frame.length) (hp : p.Valid)
    (h : c.frame.drop c.pos = encodePackageHeader p ++ rest)
    (hcut : rest.length < p.points.length) :
    c.turn = .inr (.ok none, { c with truncated := true, done := true }) := by
  have hlength : c.frame.length = c.pos + (encodePackageHeader p ++ rest).length := length_at hpos h
  rw [List.length_append, encodePackageHeader_length] at hlength
  have hsize : (UInt32.ofNat p.points.length).toNat = p.points.length :=
    UInt32.toNat_ofNat_of_lt' hp.size
  unfold turn
  rw [if_neg (by rw [hdone]; decide), if_neg (by omega), decode_header_at h]
  dsimp only
  rw [packageDataType_packageType hp]
  dsimp only
  rw [hsize, if_neg (not_not.mpr hp.whole), if_pos (by omega)]

/-- A turn at the end of a frame loads the next one. -/
theorem turn_frameEnd (hdone : c.done = false)
    (hend : c.frame.length < c.pos + kPackageHeaderSize) :
    c.turn =
      afterLoad (loadFrame { c with truncated := c.truncated || c.pos != c.frame.length }) := by
  unfold turn
  rw [if_neg (by rw [hdone]; decide), if_pos hend]

/-- A turn at the end of the last frame ends the file: cleanly between two frames, and
as truncated inside a package header or a frame header. -/
theorem turn_fileEnd (hdone : c.done = false)
    (hend : c.frame.length < c.pos + kPackageHeaderSize) (hfault : c.file.fault = none)
    (hrest : c.file.rest.length < kFrameHeaderSize) :
    ∃ c', c.turn = .inr (.ok none, c') ∧ c'.done = true ∧
      c'.truncated = (c.truncated || c.pos != c.frame.length || !c.file.rest.isEmpty) := by
  have htake : c.file.rest.take kFrameHeaderSize = c.file.rest := List.take_of_length_le hrest.le
  rw [turn_frameEnd hdone hend, loadFrame, InFile.readSome_of_no_fault hfault, htake]
  dsimp only
  rw [loadHeader]
  cases hempty : c.file.rest with
  | nil => exact ⟨_, rfl, rfl, by simp⟩
  | cons =>
    rw [hempty] at hrest
    rw [if_neg (by simp), if_pos hrest]
    exact ⟨_, rfl, rfl, by simp⟩

/-- The header of a frame written at the offset the cursor expects is accepted. -/
theorem loadFrame_encodeFrameHeader {offset frameIndex size : ℕ} {tail : List UInt8}
    (hfault : c.file.fault = none) (hoffset : c.frameOffset = UInt64.ofNat offset)
    (hsize : offset + (kFrameHeaderSize + size) < 2 ^ 63)
    (hrest : c.file.rest =
      encodeFrameHeader (UInt64.ofNat offset) (UInt64.ofNat frameIndex) size ++ tail) :
    c.loadFrame = (.ok true,
      { c with
        file := { c.file with rest := tail.drop size }
        truncated := c.truncated || (tail.take size).length < size
        frame := tail.take size
        pos := 0
        frameIndex := UInt64.ofNat frameIndex
        frameOffset := UInt64.ofNat (offset + (kFrameHeaderSize + size)) }) := by
  have hlength : (encodeFrameHeader (UInt64.ofNat offset) (UInt64.ofNat frameIndex) size).length =
      kFrameHeaderSize := encodeFrameHeader_length ..
  have hcurrent : readLe UInt64 (encodeFrameHeader (UInt64.ofNat offset)
      (UInt64.ofNat frameIndex) size) 0 = UInt64.ofNat offset := by
    simp [encodeFrameHeader, readLe_append_zero]
  have hnext : readLe UInt64 (encodeFrameHeader (UInt64.ofNat offset)
      (UInt64.ofNat frameIndex) size) 8 = UInt64.ofNat (offset + (kFrameHeaderSize + size)) := by
    simp [encodeFrameHeader, readLe_append_of_le, readLe_append_zero]
  have hindex : readLe UInt64 (encodeFrameHeader (UInt64.ofNat offset)
      (UInt64.ofNat frameIndex) size) 16 = UInt64.ofNat frameIndex := by
    simp [encodeFrameHeader, readLe_append_of_le, readLe_encodeLe]
  -- the file is below 2^63 bytes, so no offset in it wraps
  have hword : ∀ n, n ≤ offset + (kFrameHeaderSize + size) → (UInt64.ofNat n).toNat = n :=
    fun n hn => UInt64.toNat_ofNat_of_lt' (hn.trans_lt (hsize.trans (by decide)))
  have hdiff : (UInt64.ofNat (offset + (kFrameHeaderSize + size)) - UInt64.ofNat offset -
      UInt64.ofNat kFrameHeaderSize).toNat = size := by
    have hcancel : UInt64.ofNat (offset + (kFrameHeaderSize + size)) - UInt64.ofNat offset -
        UInt64.ofNat kFrameHeaderSize = UInt64.ofNat size := by
      rw [UInt64.ofNat_add, UInt64.ofNat_add]
      grind
    rw [hcancel, hword size (by omega)]
  have hforward : ¬UInt64.ofNat (offset + (kFrameHeaderSize + size)) <
      UInt64.ofNat offset + UInt64.ofNat kFrameHeaderSize := by
    rw [← UInt64.ofNat_add, UInt64.lt_iff_toNat_lt, hword _ le_rfl, hword _ (by omega)]
    omega
  rw [loadFrame, InFile.readSome_of_no_fault hfault, hrest, List.take_left' hlength,
    List.drop_left' hlength]
  dsimp only
  rw [loadHeader, hlength, if_neg (by decide), if_neg (lt_irrefl _), hcurrent, hnext, hindex]
  dsimp only
  rw [if_neg (not_not.mpr hoffset.symm), if_neg hforward, hdiff,
    if_neg (by simp only [kByteVectorMaxSize]; omega), loadBody]
  dsimp only
  rw [InFile.readSome_of_no_fault (f := { rest := tail, fault := c.file.fault }) hfault]

end Lvx2Reader.Cursor

/-! ## Reading frames back -/

namespace Lvx2

/-- The packages of a frame body at a file offset, each with the offset of its end. -/
def placedBody (frameIndex : UInt64) : ℕ → List Lvx2Package → List (Lvx2Packet × ℕ)
  | _, [] => []
  | offset, p :: packages =>
    (packetAt frameIndex p, offset + (encodePackage p).length) ::
      placedBody frameIndex (offset + (encodePackage p).length) packages

/-- The packages of a chain of frames, each with the file offset of its end. -/
def placedFrames : ℕ → ℕ → List (List Lvx2Package) → List (Lvx2Packet × ℕ)
  | _, _, [] => []
  | offset, frameIndex, packages :: frames =>
    placedBody (UInt64.ofNat frameIndex) (offset + kFrameHeaderSize) packages ++
      placedFrames (offset + frameSize packages) (frameIndex + 1) frames

/-- The packages that end at or before a file offset. -/
def within (cut : ℕ) (placed : List (Lvx2Packet × ℕ)) : List Lvx2Packet :=
  (placed.filter fun p => p.2 ≤ cut).map Prod.fst

/-- The file offsets between the frames of a chain, its two ends included. -/
def boundaries : ℕ → List (List Lvx2Package) → List ℕ
  | offset, [] => [offset]
  | offset, packages :: frames => offset :: boundaries (offset + frameSize packages) frames

theorem within_append (cut : ℕ) (placed placed' : List (Lvx2Packet × ℕ)) :
    within cut (placed ++ placed') = within cut placed ++ within cut placed' := by
  simp [within]

theorem within_eq_nil {cut : ℕ} {placed : List (Lvx2Packet × ℕ)} (h : ∀ e ∈ placed, cut < e.2) :
    within cut placed = [] := by
  have hnone : placed.filter (fun p => p.2 ≤ cut) = [] :=
    List.filter_eq_nil_iff.mpr fun e mem => by simpa using h e mem
  rw [within, hnone, List.map_nil]

theorem within_eq_all {cut : ℕ} {placed : List (Lvx2Packet × ℕ)} (h : ∀ e ∈ placed, e.2 ≤ cut) :
    within cut placed = placed.map Prod.fst := by
  have hall : placed.filter (fun p => p.2 ≤ cut) = placed :=
    List.filter_eq_self.mpr fun e mem => by simpa using h e mem
  rw [within, hall]

theorem placedBody_map_fst (frameIndex : UInt64) (offset : ℕ) (packages : List Lvx2Package) :
    (placedBody frameIndex offset packages).map Prod.fst = packages.map (packetAt frameIndex) := by
  induction packages generalizing offset with
  | nil => rfl
  | cons p packages ih => rw [placedBody, List.map_cons, List.map_cons, ih]

variable {offset : ℕ}

/-- A package ends behind its header, inside its frame. -/
theorem placedBody_bounds {frameIndex : UInt64} {packages : List Lvx2Package} {e : Lvx2Packet × ℕ}
    (mem : e ∈ placedBody frameIndex offset packages) :
    offset < e.2 ∧ e.2 ≤ offset + (encodeBody packages).length := by
  induction packages generalizing offset with
  | nil => exact absurd mem List.not_mem_nil
  | cons p packages ih =>
    have hbody : (encodeBody (p :: packages)).length =
        (encodePackage p).length + (encodeBody packages).length := by
      simp [encodeBody]
    have hpositive : 0 < (encodePackage p).length := by
      simp [kPackageHeaderSize]
    rw [hbody]
    rcases List.mem_cons.mp mem with rfl | mem
    · dsimp only
      omega
    · have hrest := ih mem
      omega

theorem placedFrames_gt {frameIndex : ℕ} {frames : List (List Lvx2Package)} {e : Lvx2Packet × ℕ}
    (mem : e ∈ placedFrames offset frameIndex frames) : offset < e.2 := by
  induction frames generalizing offset frameIndex with
  | nil => exact absurd mem List.not_mem_nil
  | cons packages frames ih =>
    rcases List.mem_append.mp mem with mem | mem
    · have hbody := placedBody_bounds mem
      omega
    · have hrest := ih mem
      omega

theorem le_of_mem_boundaries {b : ℕ} {frames : List (List Lvx2Package)}
    (mem : b ∈ boundaries offset frames) : offset ≤ b := by
  induction frames generalizing offset with
  | nil => exact (List.mem_singleton.mp mem).ge
  | cons packages frames ih =>
    rcases List.mem_cons.mp mem with rfl | mem
    · exact le_rfl
    · exact (Nat.le_add_right ..).trans (ih mem)

section Cut

variable {offset frameIndex cut : ℕ} {packages : List Lvx2Package}
  {frames : List (List Lvx2Package)}

/-- A cut inside the first frame of a chain is between two frames only in front of
it. -/
theorem mem_boundaries_of_lt (h : cut < frameSize packages) :
    offset + cut ∈ boundaries offset (packages :: frames) ↔ cut = 0 := by
  rw [boundaries, List.mem_cons]
  constructor
  · rintro (hzero | mem)
    · omega
    · have hlater := le_of_mem_boundaries mem
      omega
  · rintro rfl
    exact .inl rfl

theorem mem_boundaries_of_ge (h : frameSize packages ≤ cut) :
    offset + cut ∈ boundaries offset (packages :: frames) ↔
      offset + cut ∈ boundaries (offset + frameSize packages) frames := by
  have hpositive : offset + cut ≠ offset := by
    simp only [frameSize, kFrameHeaderSize] at h
    omega
  rw [boundaries, List.mem_cons, or_iff_right hpositive]

/-- Within a cut inside the first frame of a chain, only packages of that frame end. -/
theorem within_placedFrames_of_lt (h : cut < frameSize packages) :
    within (offset + cut) (placedFrames offset frameIndex (packages :: frames)) =
      within (offset + cut)
        (placedBody (UInt64.ofNat frameIndex) (offset + kFrameHeaderSize) packages) := by
  have hlater : within (offset + cut)
      (placedFrames (offset + frameSize packages) (frameIndex + 1) frames) = [] := by
    refine within_eq_nil fun e mem => ?_
    have hbound := placedFrames_gt mem
    omega
  rw [placedFrames, within_append, hlater, List.append_nil]

/-- Within a cut behind the first frame of a chain, all its packages end. -/
theorem within_placedFrames_of_ge (h : frameSize packages ≤ cut) :
    within (offset + cut) (placedFrames offset frameIndex (packages :: frames)) =
      packages.map (packetAt (UInt64.ofNat frameIndex)) ++ within (offset + cut)
        (placedFrames (offset + frameSize packages) (frameIndex + 1) frames) := by
  rw [placedFrames, within_append, within_eq_all, placedBody_map_fst]
  intro e mem
  have hbound := (placedBody_bounds mem).2
  rw [frameSize] at h
  omega

end Cut

end Lvx2

namespace Reads

open Lvx2Reader

variable {c : Cursor} {packages : List Lvx2Package}

/-- The packages of a complete frame are returned, and the reader goes on behind it. -/
theorem body {tail : List Lvx2Packet} {ending : Except Lvx2Failure Bool} (hdone : c.done = false)
    (hpos : c.pos ≤ c.frame.length) (hvalid : ∀ p ∈ packages, p.Valid)
    (h : c.frame.drop c.pos = encodeBody packages)
    (hrest : Reads { c with pos := c.frame.length } tail ending) :
    Reads c (packages.map (packetAt c.frameIndex) ++ tail) ending := by
  induction packages generalizing c with
  | nil =>
    have hend : c.pos = c.frame.length :=
      hpos.antisymm (List.drop_eq_nil_iff.mp h)
    rw [← hend] at hrest
    exact hrest
  | cons p packages ih =>
    have hsplit : c.frame.drop c.pos = encodePackage p ++ encodeBody packages := h
    have hlength := Cursor.length_at hpos hsplit
    rw [List.length_append] at hlength
    refine .packet (Cursor.nextPacket_done (Cursor.turn_package hdone hpos
      (hvalid p List.mem_cons_self) hsplit)) ?_
    refine ih (c := { c with pos := c.pos + (encodePackage p).length }) hdone ?_
      (fun q mem => hvalid q (List.mem_cons_of_mem p mem)) ?_ hrest
    · dsimp only
      omega
    · dsimp only
      rw [← List.drop_drop, hsplit, List.drop_left]

/-- The complete packages of a frame cut short are returned, and then the end of the
file. -/
theorem cutBody {offset k : ℕ} (hdone : c.done = false) (hpos : c.pos ≤ c.frame.length)
    (hvalid : ∀ p ∈ packages, p.Valid) (hfile : c.file.rest = [])
    (hfault : c.file.fault = none) (htruncated : c.truncated = true)
    (hk : k < (encodeBody packages).length)
    (h : c.frame.drop c.pos = (encodeBody packages).take k) :
    Reads c (within (offset + k) (placedBody c.frameIndex offset packages)) (.ok true) := by
  induction packages generalizing c offset k with
  | nil => exact absurd hk (Nat.not_lt_zero k)
  | cons p packages ih =>
    have hbody : encodeBody (p :: packages) = encodePackage p ++ encodeBody packages := rfl
    have hlength := Cursor.length_at hpos h
    rw [List.length_take, Nat.min_eq_left hk.le] at hlength
    by_cases hwhole : (encodePackage p).length ≤ k
    · -- The package is complete: it is returned.
      have hsplit : c.frame.drop c.pos = encodePackage p ++
          (encodeBody packages).take (k - (encodePackage p).length) := by
        rw [h, hbody, List.take_append, List.take_of_length_le hwhole]
      have hinside : offset + (encodePackage p).length ≤ offset + k := by
        omega
      have hplaced : within (offset + k) (placedBody c.frameIndex offset (p :: packages)) =
          packetAt c.frameIndex p :: within (offset + k)
            (placedBody c.frameIndex (offset + (encodePackage p).length) packages) := by
        rw [placedBody, within, List.filter_cons_of_pos (by simpa using hinside)]
        rfl
      have hcut : offset + k =
          offset + (encodePackage p).length + (k - (encodePackage p).length) := by
        omega
      rw [hplaced, hcut]
      refine .packet (Cursor.nextPacket_done (Cursor.turn_package hdone hpos
        (hvalid p List.mem_cons_self) hsplit)) ?_
      refine ih (c := { c with pos := c.pos + (encodePackage p).length }) hdone ?_
        (fun q mem => hvalid q (List.mem_cons_of_mem p mem)) hfile hfault htruncated ?_ ?_
      · dsimp only
        omega
      · rw [hbody, List.length_append] at hk
        omega
      · dsimp only
        rw [← List.drop_drop, hsplit, List.drop_left]
    · -- The package is cut: nothing more is returned.
      have hnone : within (offset + k) (placedBody c.frameIndex offset (p :: packages)) = [] := by
        refine within_eq_nil fun e mem => ?_
        rcases List.mem_cons.mp mem with rfl | mem
        · dsimp only
          omega
        · have hbound := (placedBody_bounds mem).1
          omega
      rw [hnone]
      rw [encodePackage_length] at hwhole
      by_cases hheader : kPackageHeaderSize ≤ k
      · have hsplit : c.frame.drop c.pos = encodePackageHeader p ++
            p.points.take (k - kPackageHeaderSize) := by
          rw [h, hbody, List.take_append_of_le_length (by rw [encodePackage_length]; omega),
            encodePackage, List.take_append, encodePackageHeader_length,
            List.take_of_length_le (by rw [encodePackageHeader_length]; exact hheader)]
        exact .finish (Cursor.nextPacket_done (Cursor.turn_cutPoints hdone hpos
          (hvalid p List.mem_cons_self) hsplit (by rw [List.length_take]; omega))) rfl
      · obtain ⟨c', hturn, hc', hverdict⟩ := Cursor.turn_fileEnd hdone (by omega) hfault
          (by rw [hfile]; decide)
        rw [htruncated, Bool.true_or, Bool.true_or] at hverdict
        rw [← hverdict]
        exact .finish (Cursor.nextPacket_done hturn) hc'

end Reads

namespace Lvx2Reader.Cursor

/-- A cursor between two frames, at a file offset, with nothing amiss so far. -/
structure Between (c : Cursor) (offset : ℕ) : Prop where
  done : c.done = false
  pos : c.pos = c.frame.length
  truncated : c.truncated = false
  fault : c.file.fault = none
  frameOffset : c.frameOffset = UInt64.ofNat offset

/-- A turn between two frames loads the next one, whole or cut short. -/
theorem Between.turn_encodeFrameHeader {c : Cursor} {offset frameIndex size : ℕ}
    {tail : List UInt8} (h : c.Between offset)
    (hsize : offset + (kFrameHeaderSize + size) < 2 ^ 63)
    (hrest : c.file.rest =
      encodeFrameHeader (UInt64.ofNat offset) (UInt64.ofNat frameIndex) size ++ tail) :
    c.turn = .inl
      { file := { c.file with rest := tail.drop size }
        frame := tail.take size
        pos := 0
        frameIndex := UInt64.ofNat frameIndex
        frameOffset := UInt64.ofNat (offset + (kFrameHeaderSize + size))
        truncated := (tail.take size).length < size
        done := false } := by
  have hflag : (c.truncated || c.pos != c.frame.length) = c.truncated := by
    rw [h.pos, bne_self_eq_false, Bool.or_false]
  have hsame : { c with truncated := c.truncated || c.pos != c.frame.length } = c := by
    rw [hflag]
  rw [turn_frameEnd h.done (by rw [h.pos]; simp [kPackageHeaderSize]), hsame,
    loadFrame_encodeFrameHeader h.fault h.frameOffset hsize hrest, h.truncated, h.done]
  rfl

end Lvx2Reader.Cursor

namespace Reads

open Lvx2Reader

variable {c : Cursor} {offset frameIndex cut : ℕ}

/-- A cut in front of the next frame, or inside its header. -/
theorem cutHeader (h : c.Between offset) (hrest : c.file.rest.length < kFrameHeaderSize) :
    Reads c [] (.ok !c.file.rest.isEmpty) := by
  obtain ⟨c', hturn, hdone, hverdict⟩ := Cursor.turn_fileEnd h.done
    (by rw [h.pos]; simp [kPackageHeaderSize]) h.fault hrest
  rw [h.truncated, h.pos, bne_self_eq_false, Bool.false_or, Bool.false_or] at hverdict
  rw [← hverdict]
  exact .finish (Cursor.nextPacket_done hturn) hdone

/-- A cut inside the next frame. -/
theorem cutFrame {packages : List Lvx2Package} {rest : List UInt8} (h : c.Between offset)
    (hvalid : ∀ p ∈ packages, p.Valid) (hsize : offset + frameSize packages < 2 ^ 63)
    (hcut : cut < frameSize packages)
    (hrest : c.file.rest = (encodeFrame offset frameIndex packages ++ rest).take cut) :
    Reads c (within (offset + cut)
        (placedBody (UInt64.ofNat frameIndex) (offset + kFrameHeaderSize) packages))
      (.ok (decide (cut ≠ 0))) := by
  have hlength : c.file.rest.length = cut := by
    rw [hrest, List.length_take, List.length_append, encodeFrame_length]
    omega
  by_cases hheader : cut < kFrameHeaderSize
  · have hnone : within (offset + cut)
        (placedBody (UInt64.ofNat frameIndex) (offset + kFrameHeaderSize) packages) = [] := by
      refine within_eq_nil fun e mem => ?_
      have hbound := (placedBody_bounds mem).1
      omega
    have hempty : (!c.file.rest.isEmpty) = decide (cut ≠ 0) := by
      rw [← hlength]
      cases c.file.rest with
      | nil => rfl
      | cons => rfl
    rw [hnone, ← hempty]
    exact cutHeader h (by omega)
  · -- The header is there, and a part of the body.
    have hbody : cut - kFrameHeaderSize < (encodeBody packages).length := by
      rw [frameSize] at hcut
      omega
    have hsplit : c.file.rest = encodeFrameHeader (UInt64.ofNat offset) (UInt64.ofNat frameIndex)
        (encodeBody packages).length ++ (encodeBody packages).take (cut - kFrameHeaderSize) := by
      rw [hrest, List.take_append_of_le_length (by rw [encodeFrame_length]; exact hcut.le),
        encodeFrame, List.take_append, encodeFrameHeader_length, List.take_of_length_le]
      rw [encodeFrameHeader_length]
      omega
    have hshort : ((encodeBody packages).take (cut - kFrameHeaderSize)).length =
        cut - kFrameHeaderSize := by
      rw [List.length_take, Nat.min_eq_left hbody.le]
    have hverdict : decide (cut ≠ 0) = true := by
      simp only [kFrameHeaderSize] at hheader
      exact decide_eq_true (by omega)
    have hoffset : offset + cut = offset + kFrameHeaderSize + (cut - kFrameHeaderSize) := by
      omega
    have htake : ((encodeBody packages).take (cut - kFrameHeaderSize)).take
        (encodeBody packages).length = (encodeBody packages).take (cut - kFrameHeaderSize) :=
      List.take_of_length_le (by omega)
    have hdrop : ((encodeBody packages).take (cut - kFrameHeaderSize)).drop
        (encodeBody packages).length = [] := List.drop_of_length_le (by omega)
    refine .again (h.turn_encodeFrameHeader hsize hsplit) ?_
    rw [hverdict, hoffset, htake, hdrop]
    refine cutBody rfl (Nat.zero_le _) hvalid rfl h.fault ?_ hbody rfl
    dsimp only
    exact decide_eq_true (by omega)

/-- A complete frame: its packages are returned, and the reader goes on behind it. -/
theorem wholeFrame {packages : List Lvx2Package} {rest : List UInt8} {tail : List Lvx2Packet}
    {ending : Except Lvx2Failure Bool} (h : c.Between offset) (hvalid : ∀ p ∈ packages, p.Valid)
    (hsize : offset + frameSize packages < 2 ^ 63)
    (hrest : c.file.rest = encodeFrame offset frameIndex packages ++ rest)
    (htail : ∀ c' : Cursor, c'.Between (offset + frameSize packages) → c'.file.rest = rest →
      Reads c' tail ending) :
    Reads c (packages.map (packetAt (UInt64.ofNat frameIndex)) ++ tail) ending := by
  have hsplit : c.file.rest = encodeFrameHeader (UInt64.ofNat offset) (UInt64.ofNat frameIndex)
      (encodeBody packages).length ++ (encodeBody packages ++ rest) := by
    rw [hrest, encodeFrame, List.append_assoc]
  refine .again (h.turn_encodeFrameHeader hsize hsplit) ?_
  rw [List.take_left, List.drop_left]
  refine body rfl (Nat.zero_le _) hvalid rfl (htail _ ⟨rfl, rfl, ?_, h.fault, rfl⟩ rfl)
  dsimp only
  exact decide_eq_false (lt_irrefl _)

end Reads

/-- **A chain of frames, cut at any byte, reads back.**  The packages that end within
the cut are returned, and the file is reported as truncated unless the cut is between
two frames. -/
theorem reads_frames {c : Lvx2Reader.Cursor} {offset frameIndex cut : ℕ}
    {frames : List (List Lvx2Package)} (h : c.Between offset)
    (hvalid : ∀ packages ∈ frames, ∀ p ∈ packages, p.Valid)
    (hsize : offset + (encodeFrames offset frameIndex frames).length < 2 ^ 63)
    (hcut : cut ≤ (encodeFrames offset frameIndex frames).length)
    (hrest : c.file.rest = (encodeFrames offset frameIndex frames).take cut) :
    Reads c (within (offset + cut) (placedFrames offset frameIndex frames))
      (.ok (decide (offset + cut ∉ boundaries offset frames))) := by
  induction frames generalizing c offset frameIndex cut with
  | nil =>
    obtain rfl : cut = 0 := Nat.le_zero.mp hcut
    have hend := Reads.cutHeader h (by simp [hrest, kFrameHeaderSize])
    rw [hrest] at hend
    simpa [encodeFrames, placedFrames, boundaries, within] using hend
  | cons packages frames ih =>
    have hlength : (encodeFrames offset frameIndex (packages :: frames)).length =
        frameSize packages +
          (encodeFrames (offset + frameSize packages) (frameIndex + 1) frames).length := by
      rw [encodeFrames, List.length_append, encodeFrame_length]
    rw [hlength] at hsize hcut
    have hfirst := hvalid packages List.mem_cons_self
    -- the cut is in this frame, or behind it and the frame is read whole
    by_cases hinside : cut < frameSize packages
    · have hverdict : decide (offset + cut ∉ boundaries offset (packages :: frames)) =
          decide (cut ≠ 0) := by
        rw [decide_eq_decide, mem_boundaries_of_lt hinside]
      rw [within_placedFrames_of_lt hinside, hverdict]
      exact Reads.cutFrame h hfirst (by omega) hinside hrest
    · have hbehind : frameSize packages ≤ cut := Nat.le_of_not_lt hinside
      have hoffset : offset + cut = offset + frameSize packages + (cut - frameSize packages) := by
        omega
      have hverdict : decide (offset + cut ∉ boundaries offset (packages :: frames)) =
          decide (offset + frameSize packages + (cut - frameSize packages) ∉
            boundaries (offset + frameSize packages) frames) := by
        rw [decide_eq_decide, mem_boundaries_of_ge hbehind, ← hoffset]
      have hsplit : c.file.rest = encodeFrame offset frameIndex packages ++
          (encodeFrames (offset + frameSize packages) (frameIndex + 1) frames).take
            (cut - frameSize packages) := by
        rw [hrest, encodeFrames, List.take_append, encodeFrame_length, List.take_of_length_le]
        rw [encodeFrame_length]
        exact hbehind
      rw [within_placedFrames_of_ge hbehind, hverdict, hoffset]
      refine Reads.wholeFrame h hfirst (by omega) hsplit fun c' hc' hrest' => ?_
      exact ih hc' (fun q mem => hvalid q (List.mem_cons_of_mem packages mem)) (by omega)
        (by omega) hrest'

/-! ## The header and the device list -/

namespace Lvx2

/-- The 29 bytes in front of the device-info block. -/
def fileHeaderStart (deviceCount : UInt8) (frameDurationMs : UInt32) : List UInt8 :=
  kSignature ++ (kVersion ++ (encodeLe kMagic ++ (encodeLe frameDurationMs ++
    encodeLe deviceCount)))

theorem encodeFileHeader_eq (devices : List Lvx2DeviceInfo) (frameDurationMs : UInt32) :
    encodeFileHeader devices frameDurationMs =
      fileHeaderStart (UInt8.ofNat devices.length) frameDurationMs ++
        devices.flatMap encodeDeviceInfo := by
  simp only [encodeFileHeader, fileHeaderStart, List.append_assoc]

theorem readDevices_flatMap (devices : List Lvx2DeviceInfo) :
    Lvx2Reader.readDevices (devices.flatMap encodeDeviceInfo) devices.length =
      devices.map Lvx2DeviceInfo.stored := by
  refine List.ext_getElem (by simp [Lvx2Reader.readDevices]) fun i hi hi' => ?_
  rw [List.length_map] at hi'
  simp only [Lvx2Reader.readDevices, List.getElem_map, List.getElem_range]
  rw [slice_flatMap encodeDeviceInfo_length hi', decodeDeviceInfo_encodeDeviceInfo]

end Lvx2

section FileHeader

variable (deviceCount : UInt8) (frameDurationMs : UInt32)

theorem fileHeaderStart_length :
    (fileHeaderStart deviceCount frameDurationMs).length = kFileHeaderSize := by
  simp [fileHeaderStart, kFileHeaderSize]

theorem fileHeaderStart_signature :
    slice (fileHeaderStart deviceCount frameDurationMs) 0 16 = kSignature :=
  slice_append_zero rfl

theorem fileHeaderStart_version :
    slice (fileHeaderStart deviceCount frameDurationMs) 16 4 = kVersion := by
  rw [fileHeaderStart, slice_append_of_le (by simp)]
  exact slice_append_zero rfl

theorem fileHeaderStart_major :
    readLe UInt8 (fileHeaderStart deviceCount frameDurationMs) 16 = 2 := by
  rw [fileHeaderStart, readLe_append_of_le (by simp)]
  exact readLe_append_zero (2 : UInt8) _

theorem fileHeaderStart_magic :
    readLe UInt32 (fileHeaderStart deviceCount frameDurationMs) 20 = kMagic := by
  rw [fileHeaderStart, readLe_append_of_le (by simp), readLe_append_of_le (by simp)]
  exact readLe_append_zero kMagic _

theorem fileHeaderStart_frameDurationMs :
    readLe UInt32 (fileHeaderStart deviceCount frameDurationMs) 24 = frameDurationMs := by
  rw [fileHeaderStart, readLe_append_of_le (by simp), readLe_append_of_le (by simp)]
  simp [readLe_append_of_le, readLe_append_zero]

theorem fileHeaderStart_deviceCount :
    readLe UInt8 (fileHeaderStart deviceCount frameDurationMs) 28 = deviceCount := by
  rw [fileHeaderStart, readLe_append_of_le (by simp), readLe_append_of_le (by simp)]
  simp [readLe_append_of_le, readLe_encodeLe]

end FileHeader

/-- **The header and the device list of a file read back**, from any prefix of the file
that holds them. -/
theorem open_encodeFile (r : Lvx2Reader) {fs : FileSystem} {path : String}
    {devices : List Lvx2DeviceInfo} {frameDurationMs : UInt32} {tail : List UInt8}
    (hcount : devices.length ≤ 255)
    (hfile : fs path = .ok { rest := encodeFileHeader devices frameDurationMs ++ tail }) :
    r.open fs path = (.ok (),
      { isOpen := true
        header :=
          { version := kVersion, frameDurationMs
            deviceCount := UInt8.ofNat devices.length }
        devices := devices.map Lvx2DeviceInfo.stored
        generation := r.generation + 1
        cursor :=
          { file := { rest := tail }
            frameOffset := UInt64.ofNat (encodeFileHeader devices frameDurationMs).length } }) := by
  have hstart := fileHeaderStart_length (UInt8.ofNat devices.length) frameDurationMs
  have hnumber : (UInt8.ofNat devices.length).toNat = devices.length :=
    UInt8.toNat_ofNat_of_lt' (Nat.lt_succ_of_le hcount)
  have hinfo : (devices.flatMap encodeDeviceInfo).length = kDeviceInfoSize * devices.length := by
    have hlength := encodeFileHeader_length devices frameDurationMs
    rw [encodeFileHeader_eq, List.length_append, hstart] at hlength
    omega
  have hargs : ¬(kFileHeaderSize < kFileHeaderSize ∨ kSignature ≠ kSignature) := by
    rintro (hlt | hne)
    · exact lt_irrefl _ hlt
    · exact hne rfl
  rw [Lvx2Reader.open, hfile]
  dsimp only
  rw [InFile.readSome_of_no_fault rfl, encodeFileHeader_eq, List.append_assoc,
    List.take_left' hstart, List.drop_left' hstart]
  dsimp only
  rw [hstart, fileHeaderStart_signature, if_neg hargs, fileHeaderStart_magic,
    if_neg (not_not.mpr rfl), fileHeaderStart_major, if_neg (not_not.mpr rfl),
    fileHeaderStart_deviceCount, hnumber, InFile.readSome_of_no_fault rfl]
  dsimp only
  rw [List.take_left' hinfo, List.drop_left' hinfo, hinfo, if_neg (lt_irrefl _),
    fileHeaderStart_version, fileHeaderStart_frameDurationMs, readDevices_flatMap,
    List.length_append, hstart, hinfo]

end LivoxMid360
