import LivoxMid360.Lvx2.Reader

/-!
# Reading any file

The reader on files that nobody wrote with `Lvx2Writer`: every byte string, and every
sequence of calls, also behind an error.

What a turn of `next_packet` can do is said once, by `Cursor.TurnCase`.  A cursor is
`Placed` in the file: the file is what lies before the current frame, the frame, what
was skipped behind it, and what is ahead.  Every call keeps this (`Placed.nextPacket`),
and never moves back.

* `reading_terminates`: a call ends after a bounded number of turns, and the packages of
  any number of calls occupy disjoint ranges of the file, in order.
* `reader_demands_what_the_file_holds`: the reader never asks for a larger buffer than the
  file can fill if and only if no frame header that it comes to promises more than the file
  has (`HonestFrames`).  `huge_frame_throws` is a file whose only frame header promises more.

## Where the reader comes to

`HeaderAt` says on the bytes alone where a reader looks for frame headers.  It starts in a
file that `open` accepts, goes on behind a frame only if every package of it is returned
(`Passes`), and behind a header that is refused at once.  A package that the reader refuses
ends it: the cursor stays there, and every further call refuses it again.  `Reached.inChain`
says that a reader never looks elsewhere, and `headerAt_reached` that some calls lead to
each of these headers.
-/

namespace LivoxMid360

open LittleEndian Lvx2

namespace Lvx2

/-- The package with a given header and points. -/
def packetOf (frameIndex : UInt64) (dataType : DataType) (h : PackageHeader)
    (points : List UInt8) : Lvx2Packet where
  frameIndex
  lidarId := h.lidarId
  lidarType := h.lidarType
  timestampType := h.timestampType
  timestampNs := h.timestampNs
  udpCounter := h.udpCounter
  dataType
  frameCounter := h.frameCounter
  points

/-- The bytes a package has in a file. -/
def packetSize (p : Lvx2Packet) : ℕ :=
  kPackageHeaderSize + p.points.length

/-- The package `p` is in the file, from the byte `start` on. -/
structure Occupies (bytes : List UInt8) (start : ℕ) (p : Lvx2Packet) : Prop where
  inside : start + packetSize p ≤ bytes.length
  type : packageDataType (decodePackageHeader (slice bytes start kPackageHeaderSize)).type =
    some p.dataType
  length : (decodePackageHeader (slice bytes start kPackageHeaderSize)).length.toNat =
    p.points.length
  content : p = packetOf p.frameIndex p.dataType
    (decodePackageHeader (slice bytes start kPackageHeaderSize))
    (slice bytes (start + kPackageHeaderSize) p.points.length)

end Lvx2

/-! ## What a turn can do -/

namespace Lvx2Reader.Cursor

/-- The header of the package at `pos`. -/
def packageHeader (c : Cursor) : PackageHeader :=
  decodePackageHeader (slice c.frame c.pos kPackageHeaderSize)

/-- The size `load_frame` gives its frame buffer; `none` when it returns before. -/
def request (c : Cursor) : Option ℕ :=
  let h := c.file.rest.take kFrameHeaderSize
  let current := readLe UInt64 h 0
  let next := readLe UInt64 h 8
  if h.length < kFrameHeaderSize ∨ current ≠ c.frameOffset ∨
      next < current + UInt64.ofNat kFrameHeaderSize then none
  else some (next - current - UInt64.ofNat kFrameHeaderSize).toNat

/-- The cursor when the header of a frame has been read. -/
def behindHeader (c : Cursor) (truncated : Bool) : Cursor :=
  { c with
    file := { c.file with rest := c.file.rest.drop kFrameHeaderSize }
    frameIndex := readLe UInt64 (c.file.rest.take kFrameHeaderSize) 16
    truncated }

/-- The cursor when a frame of `size` bytes has been loaded. -/
def loaded (c : Cursor) (size : ℕ) (truncated : Bool) : Cursor :=
  { c.behindHeader truncated with
    file := { c.file with rest := (c.file.rest.drop kFrameHeaderSize).drop size }
    frame := slice c.file.rest kFrameHeaderSize size
    frameOffset := readLe UInt64 (c.file.rest.take kFrameHeaderSize) 8
    pos := 0 }

/-- A turn of `next_packet`, with what it has found. -/
inductive TurnCase (c : Cursor) :
    Cursor ⊕ (Except Lvx2Failure (Option Lvx2Packet) × Cursor) → Prop where
  | ended (done : c.done = true) : TurnCase c (.inr (.ok none, c))
  | fileEnd (done : c.done = false) (behind : c.frame.length < c.pos + kPackageHeaderSize)
      (short : c.file.rest.length < kFrameHeaderSize) (truncated : Bool) :
      TurnCase c (.inr (.ok none,
        { c with file := { c.file with rest := [] }, truncated, done := true }))
  | badHeader (done : c.done = false) (behind : c.frame.length < c.pos + kPackageHeaderSize)
      (whole : kFrameHeaderSize ≤ c.file.rest.length) (request : c.request = none)
      (e : Lvx2Error) (kind : e.kind = .kBadFile) (truncated : Bool) :
      TurnCase c (.inr (.error (.error e), c.behindHeader truncated))
  | tooLarge (done : c.done = false) (behind : c.frame.length < c.pos + kPackageHeaderSize)
      (whole : kFrameHeaderSize ≤ c.file.rest.length) (size : ℕ) (request : c.request = some size)
      (large : kByteVectorMaxSize < size) (truncated : Bool) :
      TurnCase c (.inr (.error .lengthError, c.behindHeader truncated))
  | load (done : c.done = false) (behind : c.frame.length < c.pos + kPackageHeaderSize)
      (whole : kFrameHeaderSize ≤ c.file.rest.length) (size : ℕ) (request : c.request = some size)
      (fits : size ≤ kByteVectorMaxSize) (truncated : Bool) :
      TurnCase c (.inl (c.loaded size truncated))
  | unsupported (done : c.done = false) (inside : c.pos + kPackageHeaderSize ≤ c.frame.length)
      (e : Lvx2Error) (kind : e.kind = .kUnsupportedDataType) :
      TurnCase c (.inr (.error (.error e), c))
  | badLength (done : c.done = false) (inside : c.pos + kPackageHeaderSize ≤ c.frame.length)
      (e : Lvx2Error) (kind : e.kind = .kBadFile) :
      TurnCase c (.inr (.error (.error e), c))
  | cutPoints (done : c.done = false) (inside : c.pos + kPackageHeaderSize ≤ c.frame.length) :
      TurnCase c (.inr (.ok none, { c with truncated := true, done := true }))
  | package (done : c.done = false) (dataType : DataType)
      (type : packageDataType c.packageHeader.type = some dataType)
      (whole : c.packageHeader.length.toNat % sampleSize dataType = 0)
      (inside : c.pos + kPackageHeaderSize + c.packageHeader.length.toNat ≤ c.frame.length) :
      TurnCase c (.inr (.ok (some (packetOf c.frameIndex dataType c.packageHeader
          (slice c.frame (c.pos + kPackageHeaderSize) c.packageHeader.length.toNat))),
        { c with pos := c.pos + kPackageHeaderSize + c.packageHeader.length.toNat }))

/-- `load_frame`, as a turn that has come to the end of its frame. -/
theorem turnCase_load {c : Cursor} (done : c.done = false)
    (behind : c.frame.length < c.pos + kPackageHeaderSize) (fault : c.file.fault = none)
    (truncated : Bool) : c.TurnCase (afterLoad (loadFrame { c with truncated })) := by
  rw [loadFrame, InFile.readSome_of_no_fault fault]
  dsimp only
  by_cases hshort : c.file.rest.length < kFrameHeaderSize
  · have hrest : c.file.rest.drop kFrameHeaderSize = [] := List.drop_eq_nil_of_le hshort.le
    have htake : c.file.rest.take kFrameHeaderSize = c.file.rest :=
      List.take_of_length_le hshort.le
    rw [hrest, htake, loadHeader]
    split_ifs with hempty
    · exact .fileEnd done behind hshort truncated
    · exact .fileEnd done behind hshort true
  · have hwhole : kFrameHeaderSize ≤ c.file.rest.length := Nat.le_of_not_lt hshort
    have hlength : (c.file.rest.take kFrameHeaderSize).length = kFrameHeaderSize := by
      rw [List.length_take, Nat.min_eq_left hwhole]
    unfold loadHeader
    dsimp only
    rw [hlength, if_neg (by decide), if_neg (lt_irrefl _)]
    -- the checks of the header in their order: both offsets, and the size of the body
    split_ifs with hcurrent hnext hlarge
    · exact .badHeader done behind hwhole (if_pos (.inr (.inl hcurrent))) _ rfl _
    · exact .badHeader done behind hwhole (if_pos (.inr (.inr hnext))) _ rfl _
    · refine .tooLarge done behind hwhole _ (if_neg ?_) hlarge _
      rw [hlength]
      exact fun h => h.elim (lt_irrefl _) (Or.elim · hcurrent hnext)
    · rw [loadBody]
      dsimp only
      rw [InFile.readSome_of_no_fault
        (f := { rest := c.file.rest.drop kFrameHeaderSize, fault := c.file.fault }) fault]
      refine .load done behind hwhole _ (if_neg ?_) (Nat.le_of_not_lt hlarge) _
      rw [hlength]
      exact fun h => h.elim (lt_irrefl _) (Or.elim · hcurrent hnext)

/-- **What a turn of `next_packet` can do**, on a file that reads without faults. -/
theorem turn_turnCase {c : Cursor} (fault : c.file.fault = none) : c.TurnCase c.turn := by
  unfold turn
  split_ifs with hdone hbehind
  · exact .ended hdone
  · exact turnCase_load (Bool.eq_false_iff.mpr hdone) hbehind fault _
  · have done : c.done = false := Bool.eq_false_iff.mpr hdone
    have hinside : c.pos + kPackageHeaderSize ≤ c.frame.length := Nat.le_of_not_lt hbehind
    dsimp only
    split
    · exact .unsupported done hinside _ rfl
    · rename_i dataType htype
      split_ifs with hlength hend
      · exact .badLength done hinside _ rfl
      · exact .cutPoints done hinside
      · exact .package done dataType htype (not_not.mp hlength) (Nat.le_of_not_lt hend)

end Lvx2Reader.Cursor

/-! ## Where a cursor is in its file -/

namespace Lvx2Reader

/-- The cursor in a file: `before` lies before its frame, `skipped` are the frame headers
behind the frame that were read and refused. -/
structure Cursor.Placed (bytes before skipped : List UInt8) (c : Cursor) : Prop where
  fault : c.file.fault = none
  bytes_eq : bytes = before ++ (c.frame ++ (skipped ++ c.file.rest))
  pos_le : c.pos ≤ c.frame.length
  behind : skipped ≠ [] → c.frame.length < c.pos + kPackageHeaderSize

namespace Cursor.Placed

variable {bytes before skipped : List UInt8} {c : Cursor}

variable (h : Placed bytes before skipped c)

include h

/-- Bytes ahead that are read without becoming a frame are skipped. -/
theorem skip (behind : c.frame.length < c.pos + kPackageHeaderSize) {c' : Cursor} {n : ℕ}
    (file : c'.file = { c.file with rest := c.file.rest.drop n }) (frame : c'.frame = c.frame)
    (pos : c'.pos = c.pos) : Placed bytes before (skipped ++ c.file.rest.take n) c' := by
  refine ⟨?_, ?_, ?_, fun _ => ?_⟩
  · rw [file]
    exact h.fault
  · rw [file, frame, List.append_assoc, List.take_append_drop]
    exact h.bytes_eq
  · rw [frame, pos]
    exact h.pos_le
  · rw [frame, pos]
    exact behind

/-- A frame that is loaded leaves everything up to its header behind. -/
theorem load (size : ℕ) (truncated : Bool) :
    Placed bytes (before ++ (c.frame ++ (skipped ++ c.file.rest.take kFrameHeaderSize))) []
      (c.loaded size truncated) where
  fault := h.fault
  bytes_eq := by
    rw [h.bytes_eq]
    simp only [loaded, slice, List.nil_append, List.take_append_drop, List.append_assoc]
  pos_le := Nat.zero_le _
  behind hne := absurd rfl hne

/-- A cursor at a package has skipped nothing. -/
theorem skipped_eq_nil (inside : c.pos + kPackageHeaderSize ≤ c.frame.length) : skipped = [] := by
  by_contra hne
  exact absurd (h.behind hne) (by omega)

/-- A window of the frame is a window of the file. -/
theorem slice_frame {off n : ℕ} (inside : off + n ≤ c.frame.length) :
    slice bytes (before.length + off) n = slice c.frame off n := by
  rw [h.bytes_eq, slice_append_of_le (Nat.le_add_right ..), Nat.add_sub_cancel_left, slice,
    slice, List.drop_append_of_le_length (by omega),
    List.take_append_of_le_length (by rw [List.length_drop]; omega)]

/-- The package at the position of the cursor, in the file. -/
theorem occupies {dataType : DataType} (type : packageDataType c.packageHeader.type = some dataType)
    (inside : c.pos + kPackageHeaderSize + c.packageHeader.length.toNat ≤ c.frame.length) :
    Occupies bytes (before.length + c.pos) (packetOf c.frameIndex dataType c.packageHeader
      (slice c.frame (c.pos + kPackageHeaderSize) c.packageHeader.length.toNat)) := by
  have hheader : decodePackageHeader (slice bytes (before.length + c.pos) kPackageHeaderSize) =
      c.packageHeader := by
    rw [h.slice_frame (by omega)]
    rfl
  have hpoints : (slice c.frame (c.pos + kPackageHeaderSize)
      c.packageHeader.length.toNat).length = c.packageHeader.length.toNat := slice_length inside
  have hbytes : before.length + c.frame.length ≤ bytes.length := by
    rw [h.bytes_eq]
    simp only [List.length_append]
    omega
  refine ⟨?_, ?_, ?_, ?_⟩
  · simp only [packetSize, packetOf, hpoints]
    omega
  · rw [hheader]
    exact type
  · rw [hheader]
    exact hpoints.symm
  · rw [hheader]
    simp only [packetOf, hpoints]
    rw [Nat.add_assoc, h.slice_frame inside]

end Cursor.Placed

namespace Cursor

/-- The cursor is in the file, at the byte `lo` or behind. -/
def Beyond (bytes : List UInt8) (lo : ℕ) (c : Cursor) : Prop :=
  ∃ before skipped, Placed bytes before skipped c ∧ lo ≤ before.length + c.pos

variable {bytes : List UInt8} {lo : ℕ} {c : Cursor}

/-- What a turn keeps, when it goes round. -/
theorem Beyond.turn_again {c' : Cursor} (h : c.Beyond bytes lo) (again : c.turn = .inl c') :
    c'.Beyond bytes lo := by
  obtain ⟨before, skipped, hplaced, hlo⟩ := h
  have hcase := turn_turnCase hplaced.fault
  rw [again] at hcase
  cases hcase with
  | load done behind whole size request fits truncated =>
    refine ⟨_, _, hplaced.load size truncated, ?_⟩
    have hpos := hplaced.pos_le
    simp only [List.length_append]
    omega

/-- What a turn leaves, when it returns: a package that is returned lies between. -/
theorem Beyond.turn_returns {c' : Cursor} {result : Except Lvx2Failure (Option Lvx2Packet)}
    (h : c.Beyond bytes lo) (returns : c.turn = .inr (result, c')) :
    c'.Beyond bytes lo ∧ ∀ p, result = .ok (some p) → ∃ start, lo ≤ start ∧
      Occupies bytes start p ∧ c'.Beyond bytes (start + packetSize p) := by
  obtain ⟨before, skipped, hplaced, hlo⟩ := h
  have hcase := turn_turnCase hplaced.fault
  rw [returns] at hcase
  cases hcase with
  | ended | unsupported | badLength => exact ⟨⟨before, skipped, hplaced, hlo⟩, nofun⟩
  | fileEnd done behind =>
    refine ⟨⟨before, _, hplaced.skip behind (n := c.file.rest.length) ?_ rfl rfl, hlo⟩, nofun⟩
    rw [List.drop_length]
  | badHeader done behind | tooLarge done behind =>
    exact ⟨⟨before, _, hplaced.skip behind rfl rfl rfl, hlo⟩, nofun⟩
  | cutPoints =>
    exact ⟨⟨before, skipped, ⟨hplaced.fault, hplaced.bytes_eq, hplaced.pos_le,
      hplaced.behind⟩, hlo⟩, nofun⟩
  -- a package lies inside its frame, so the cursor moves behind it and not back
  | package done dataType type whole inside =>
    have hpoints : (slice c.frame (c.pos + kPackageHeaderSize)
        c.packageHeader.length.toNat).length = c.packageHeader.length.toNat :=
      slice_length inside
    have hnext : Placed bytes before skipped
        { c with pos := c.pos + kPackageHeaderSize + c.packageHeader.length.toNat } := by
      refine ⟨hplaced.fault, hplaced.bytes_eq, inside, fun hne => ?_⟩
      exact absurd (hplaced.skipped_eq_nil (by omega)) hne
    refine ⟨⟨before, skipped, hnext, ?_⟩, ?_⟩
    · dsimp only
      omega
    · intro p hp
      obtain rfl := Option.some.inj (Except.ok.inj hp)
      refine ⟨_, hlo, hplaced.occupies type inside, before, skipped, hnext, ?_⟩
      simp only [packetSize, packetOf, hpoints]
      omega

/-- **A call of `next_packet` never moves back**, and a package it returns lies between
the positions before and behind the call. -/
theorem Beyond.nextPacket (h : c.Beyond bytes lo) :
    c.nextPacket.2.Beyond bytes lo ∧ ∀ p, c.nextPacket.1 = .ok (some p) → ∃ start, lo ≤ start ∧
      Occupies bytes start p ∧ c.nextPacket.2.Beyond bytes (start + packetSize p) := by
  refine WhileLoop.exec_induction (I := Beyond bytes lo) (Q := fun r => r.2.Beyond bytes lo ∧
    ∀ p, r.1 = .ok (some p) → ∃ start, lo ≤ start ∧ Occupies bytes start p ∧
      r.2.Beyond bytes (start + packetSize p)) turn_decreases ?_ ?_ h
  · intro c c' hc again
    exact hc.turn_again again
  · rintro c ⟨result, c'⟩ hc returns
    exact hc.turn_returns returns

/-- What lies ahead of a cursor lies behind its position. -/
theorem Beyond.rest_le (h : c.Beyond bytes lo) : lo + c.file.rest.length ≤ bytes.length := by
  obtain ⟨before, skipped, hplaced, hlo⟩ := h
  have hpos := hplaced.pos_le
  rw [hplaced.bytes_eq]
  simp only [List.length_append]
  omega

end Cursor

/-! ## Any number of calls -/

/-- What `n` calls of `next_packet` return. -/
def results (r : Lvx2Reader) (n : ℕ) : List (Except Lvx2Failure (Option Lvx2Packet)) :=
  (List.range n).map fun i => (r.after i).nextPacket.1

theorem results_succ (r : Lvx2Reader) (n : ℕ) :
    r.results (n + 1) = r.nextPacket.1 :: r.nextPacket.2.results n := by
  rw [results, List.range_succ_eq_map, List.map_cons, List.map_map]
  rfl

/-- The packages among some results. -/
def packages (results : List (Except Lvx2Failure (Option Lvx2Packet))) : List Lvx2Packet :=
  results.filterMap fun
    | .ok p => p
    | .error _ => none

theorem nextPacket_isOpen (r : Lvx2Reader) : r.nextPacket.2.isOpen = r.isOpen := by
  unfold nextPacket
  split_ifs <;> rfl

variable {r : Lvx2Reader}

theorem nextPacket_cursor (h : r.isOpen = true) :
    r.nextPacket.1 = r.cursor.nextPacket.1 ∧ r.nextPacket.2.cursor = r.cursor.nextPacket.2 := by
  rw [Reads.nextPacket_of_cursor h rfl]
  exact ⟨rfl, rfl⟩

variable {bytes : List UInt8}

/-- The packages of any number of calls lie in the file one behind the other. -/
theorem packages_placed {lo : ℕ} (hopen : r.isOpen = true) (h : r.cursor.Beyond bytes lo) (n : ℕ) :
    ∃ placed : List (ℕ × Lvx2Packet), placed.map Prod.snd = packages (r.results n) ∧
      (∀ e ∈ placed, lo ≤ e.1 ∧ Occupies bytes e.1 e.2) ∧
      placed.Pairwise (fun e e' => e.1 + packetSize e.2 ≤ e'.1) ∧
      lo + kPackageHeaderSize * placed.length ≤ bytes.length := by
  induction n generalizing r lo with
  | zero => exact ⟨[], rfl, nofun, .nil, (Nat.le_add_right ..).trans h.rest_le⟩
  | succ n ih =>
    obtain ⟨hresult, hcursor⟩ := nextPacket_cursor hopen
    obtain ⟨hstay, hpackage⟩ := h.nextPacket
    have hopen' : r.nextPacket.2.isOpen = true := (nextPacket_isOpen r).trans hopen
    rw [results_succ, packages, List.filterMap_cons]
    rw [← hcursor] at hstay
    rcases hcase : r.nextPacket.1 with e | _ | p
    · exact ih hopen' hstay
    · exact ih hopen' hstay
    · rw [hresult] at hcase
      obtain ⟨start, hlo, hoccupies, hbehind⟩ := hpackage p hcase
      rw [← hcursor] at hbehind
      obtain ⟨placed, hmap, hall, hdisjoint, hcount⟩ := ih hopen' hbehind
      refine ⟨(start, p) :: placed, ?_, ?_, ?_, ?_⟩
      · rw [List.map_cons, hmap]
        rfl
      · intro e mem
        obtain rfl | mem := List.mem_cons.mp mem
        · exact ⟨hlo, hoccupies⟩
        · exact ⟨hlo.trans ((Nat.le_add_right ..).trans (hall e mem).1), (hall e mem).2⟩
      · exact List.pairwise_cons.mpr ⟨fun e mem => (hall e mem).1, hdisjoint⟩
      · rw [List.length_cons, Nat.mul_succ]
        simp only [packetSize] at hcount
        omega

theorem after_isOpen (r : Lvx2Reader) (n : ℕ) : (r.after n).isOpen = r.isOpen := by
  induction n generalizing r with
  | zero => rfl
  | succ n ih => exact (ih r.nextPacket.2).trans (nextPacket_isOpen r)

theorem after_add (r : Lvx2Reader) (n m : ℕ) : r.after (n + m) = (r.after n).after m := by
  induction n generalizing r with
  | zero => rw [Nat.zero_add, after]
  | succ n ih =>
    rw [Nat.succ_add_eq_add_succ, Nat.add_succ, after, after]
    exact ih r.nextPacket.2

theorem beyond_after {lo : ℕ} (hopen : r.isOpen = true) (h : r.cursor.Beyond bytes lo) (n : ℕ) :
    (r.after n).cursor.Beyond bytes lo := by
  induction n generalizing r with
  | zero => exact h
  | succ n ih =>
    refine ih ((nextPacket_isOpen r).trans hopen) ?_
    rw [(nextPacket_cursor hopen).2]
    exact h.nextPacket.1

/-- Behind the end of the file every call returns it again. -/
theorem nextPacket_after_end (hopen : r.isOpen = true) (hend : r.nextPacket.1 = .ok none) (n : ℕ) :
    (r.after n).nextPacket.1 = .ok none := by
  cases n with
  | zero => exact hend
  | succ =>
    have hopen' : r.nextPacket.2.isOpen = true := (nextPacket_isOpen r).trans hopen
    have hdone : r.nextPacket.2.cursor.done = true := by
      obtain ⟨hresult, hcursor⟩ := nextPacket_cursor hopen
      rw [hcursor]
      exact (Cursor.nextPacket_returns rfl).2 (hresult.symm.trans hend)
    rw [after, Reads.after_of_done hopen' hdone, Reads.nextPacket_of_done hopen' hdone]

/-- A frame that is loaded takes at least its header from the file. -/
theorem turn_decreases_headers :
    WhileLoop.Decreases Cursor.turn fun c => c.file.rest.length / kFrameHeaderSize := by
  intro c c' h
  obtain ⟨hlength, next, size, hstate⟩ := Cursor.loadFrame_true
    (congrArg Prod.fst (Cursor.turn_again h))
  rw [Cursor.turn_again h] at hstate
  dsimp only at hstate hlength ⊢
  rw [hstate]
  simp only [List.length_drop, kFrameHeaderSize] at hlength ⊢
  omega

/-- The file that a reader has opened, and where it starts to read frames. -/
theorem open_ok {fs : FileSystem} {path : String} (hfile : fs path = .ok { rest := bytes })
    (h : (r.open fs path).1 = .ok ()) :
    (r.open fs path).2.isOpen = true ∧ ∃ start,
      start = kFileHeaderSize + kDeviceInfoSize * (readLe UInt8 bytes 28).toNat ∧
      start ≤ bytes.length ∧ (r.open fs path).2.cursor =
        { file := { rest := bytes.drop start }, frameOffset := UInt64.ofNat start } := by
  refine ⟨isOpen_open_iff.mpr h, _, rfl, ?_⟩
  have hread : ∀ (b : List UInt8) (n : ℕ), InFile.readSome { rest := b } n =
      (.ok (b.take n), { rest := b.drop n }) := fun b n => InFile.readSome_of_no_fault rfl n
  unfold Lvx2Reader.open at *
  rw [hfile] at h ⊢
  dsimp only at h ⊢
  rw [hread] at h ⊢
  dsimp only at h ⊢
  split_ifs at h ⊢ with hsignature hmagic hversion
  have hcount : readLe UInt8 (bytes.take kFileHeaderSize) 28 = readLe UInt8 bytes 28 :=
    readLe_take (by decide)
  rw [hread, hcount] at h ⊢
  dsimp only at h ⊢
  split_ifs at h ⊢ with hinfo
  have hlength : kFileHeaderSize ≤ (bytes.take kFileHeaderSize).length :=
    Nat.le_of_not_lt fun hlt => hsignature (.inl hlt)
  simp only [List.length_take, List.length_drop] at hinfo hlength
  refine ⟨by omega, ?_⟩
  rw [List.drop_drop]

/-- **Reading terminates.**  In any file that opens, a call of `next_packet` takes at most
one turn for each frame header the file has room for, and one more; the packages of any
number of calls, errors between them or not, are in the file one behind the other, so that
there are at most as many as there is room for; and the end of the file is final. -/
theorem reading_terminates {fs : FileSystem} {path : String} {bytes : List UInt8}
    (hfile : fs path = .ok { rest := bytes }) (r : Lvx2Reader)
    (hopened : (r.open fs path).1 = .ok ()) :
    let opened := (r.open fs path).2
    (∀ n, WhileLoop.run Cursor.turn ((bytes.length - 29) / 24 + 1) (opened.after n).cursor =
      some (opened.after n).cursor.nextPacket) ∧
    (∀ n, (packages (opened.results n)).length ≤ (bytes.length - 29) / 23 ∧
      ∃ placed : List (ℕ × Lvx2Packet), placed.map Prod.snd = packages (opened.results n) ∧
        (∀ e ∈ placed, 29 ≤ e.1 ∧ Occupies bytes e.1 e.2) ∧
        placed.Pairwise fun e e' => e.1 + packetSize e.2 ≤ e'.1) ∧
    ∀ n m, n ≤ m → (opened.after n).nextPacket.1 = .ok none →
      (opened.after m).nextPacket.1 = .ok none := by
  intro opened
  obtain ⟨hopen, start, hstart, hfits, hcursor⟩ := open_ok hfile hopened
  have hlo : 29 ≤ start := by
    rw [hstart, kFileHeaderSize]
    omega
  -- the cursor starts behind the device list, wherever that ends
  have hbeyond : opened.cursor.Beyond bytes start := by
    refine ⟨bytes.take start, [], ⟨?_, ?_, ?_, by simp⟩, ?_⟩
    · rw [hcursor]
    · rw [hcursor]
      exact (List.take_append_drop ..).symm
    · rw [hcursor]
      exact Nat.le_refl _
    · rw [hcursor, List.length_take, Nat.min_eq_left hfits]
      exact Nat.le_refl _
  refine ⟨fun n => ?_, fun n => ?_, fun n m hle hend => ?_⟩
  · have hrest := (beyond_after (r := opened) hopen hbeyond n).rest_le
    refine WhileLoop.run_eq_exec _ turn_decreases_headers ?_
    simp only [kFrameHeaderSize]
    omega
  · obtain ⟨placed, hmap, hall, hdisjoint, hcount⟩ := packages_placed hopen hbeyond n
    refine ⟨?_, placed, hmap, fun e mem => ⟨hlo.trans (hall e mem).1, (hall e mem).2⟩, hdisjoint⟩
    rw [← hmap, List.length_map]
    simp only [kPackageHeaderSize] at hcount
    omega
  · obtain ⟨k, rfl⟩ := Nat.exists_eq_add_of_le hle
    rw [after_add]
    exact nextPacket_after_end ((after_isOpen _ _).trans hopen) hend k

/-- The file system with the same file at every path. -/
def fileSystemOf (bytes : List UInt8) : FileSystem :=
  fun _ => .ok { rest := bytes }

/-- The reader of a file, just opened. -/
def readerOf (bytes : List UInt8) : Lvx2Reader :=
  (Lvx2Reader.open {} (fileSystemOf bytes) "file.lvx2").2

/-- A file without devices, with one frame of one package without points. -/
def onePackageFile : List UInt8 :=
  encodeFile [] 50 [[{}]]

theorem reading_terminates_onePackageFile :
    onePackageFile.length = 80 ∧
      ∀ n, (packages ((readerOf onePackageFile).results n)).length ≤ 2 := by
  have hopened : (Lvx2Reader.open {} (fileSystemOf onePackageFile) "file.lvx2").1 = .ok () := by
    decide +kernel
  refine ⟨by decide +kernel, fun n => ?_⟩
  exact ((reading_terminates rfl {} hopened).2.1 n).1

/-! ## The buffers a reader asks for -/

/-- A call of `next_packet` comes to the cursor `c`, at the end of a frame. -/
structure LooksFrom (r : Lvx2Reader) (c : Cursor) : Prop where
  isOpen : r.isOpen = true
  turns : ∃ k, WhileLoop.turns Cursor.turn k r.cursor = .inl c
  done : c.done = false
  behind : c.frame.length < c.pos + kPackageHeaderSize

/-- A call of `next_packet` gives its frame buffer `size` bytes, when the file has `left`
bytes behind the frame header. -/
def Requests (r : Lvx2Reader) (size left : ℕ) : Prop :=
  ∃ c, r.LooksFrom c ∧ c.request = some size ∧ left = c.file.rest.length - kFrameHeaderSize

/-- The readers that calls of `open` and `next_packet` lead to. -/
inductive Reached (fs : FileSystem) (path : String) : Lvx2Reader → Prop where
  | new : Reached fs path {}
  | open {r : Lvx2Reader} (h : Reached fs path r) : Reached fs path (r.open fs path).2
  | nextPacket {r : Lvx2Reader} (h : Reached fs path r) : Reached fs path r.nextPacket.2

theorem reached_readerOf (bytes : List UInt8) :
    Reached (fileSystemOf bytes) "file.lvx2" (readerOf bytes) :=
  .open .new

end Lvx2Reader

namespace Lvx2

open Lvx2Reader

/-- The size of the frame whose header is at a position of the file, for a reader that
expects it at `frameOffset`. -/
def frameRequest (bytes : List UInt8) (position : ℕ) (frameOffset : UInt64) : Option ℕ :=
  Cursor.request { file := { rest := bytes.drop position }, frameOffset }

/-- All packages of a frame from a position on are returned: each one is of a supported type,
has a whole number of points and lies inside, up to a rest that is shorter than a package
header. -/
inductive Passes (frame : List UInt8) : ℕ → Prop where
  | behind {pos : ℕ} (h : frame.length < pos + kPackageHeaderSize) : Passes frame pos
  | package {pos : ℕ} {h : PackageHeader} {dataType : DataType}
      (header : h = decodePackageHeader (slice frame pos kPackageHeaderSize))
      (type : packageDataType h.type = some dataType)
      (whole : h.length.toNat % sampleSize dataType = 0)
      (inside : pos + kPackageHeaderSize + h.length.toNat ≤ frame.length)
      (rest : Passes frame (pos + kPackageHeaderSize + h.length.toNat)) : Passes frame pos

/-- Where the reader looks for a frame header, and at which offset it expects it.  Behind
a header that it refuses, or whose frame is too large for a vector, it reads on and expects
the same offset. -/
inductive HeaderAt (bytes : List UInt8) : ℕ → UInt64 → Prop where
  | first (opens : (Lvx2Reader.open {} (fileSystemOf bytes) "file.lvx2").1 = .ok ()) (start : ℕ)
      (eq : start = kFileHeaderSize + kDeviceInfoSize * (readLe UInt8 bytes 28).toNat) :
      HeaderAt bytes start (UInt64.ofNat start)
  | next {position size : ℕ} {frameOffset : UInt64} (h : HeaderAt bytes position frameOffset)
      (request : frameRequest bytes position frameOffset = some size)
      (fits : size ≤ kByteVectorMaxSize)
      (passes : Passes (slice bytes (position + kFrameHeaderSize) size) 0) :
      HeaderAt bytes (position + kFrameHeaderSize + size)
        (readLe UInt64 (slice bytes position kFrameHeaderSize) 8)
  | refused {position : ℕ} {frameOffset : UInt64} (h : HeaderAt bytes position frameOffset)
      (whole : position + kFrameHeaderSize ≤ bytes.length)
      (request : ∀ size ∈ frameRequest bytes position frameOffset, kByteVectorMaxSize < size) :
      HeaderAt bytes (position + kFrameHeaderSize) frameOffset

/-- No frame header that the reader comes to promises more than the file has. -/
def HonestFrames (bytes : List UInt8) : Prop :=
  ∀ position frameOffset size, HeaderAt bytes position frameOffset →
    frameRequest bytes position frameOffset = some size →
    position + kFrameHeaderSize + size ≤ bytes.length

end Lvx2

namespace Lvx2Reader

/-! ### The reader looks nowhere else -/

/-- A cursor that has ended, or that looks for its next frame header where the file has one
once it has got through its frame. -/
structure Cursor.InChain (bytes : List UInt8) (c : Cursor) : Prop where
  fault : c.file.fault = none
  ahead : c.done = true ∨ ∃ position, c.file.rest = bytes.drop position ∧
    (Passes c.frame c.pos → HeaderAt bytes position c.frameOffset)

namespace Cursor

theorem slice_of_rest {bytes : List UInt8} {c : Cursor} {position : ℕ}
    (hrest : c.file.rest = bytes.drop position) (off n : ℕ) :
    slice c.file.rest off n = slice bytes (position + off) n := by
  rw [hrest, slice, slice, List.drop_drop]

theorem frameRequest_eq {bytes : List UInt8} {c : Cursor} {position : ℕ}
    (hrest : c.file.rest = bytes.drop position) :
    frameRequest bytes position c.frameOffset = c.request := by
  rw [frameRequest, ← hrest]
  rfl

namespace InChain

variable {bytes : List UInt8} {c : Cursor}

variable (h : c.InChain bytes)

include h

/-- The header a cursor has come to. -/
theorem headerAt (done : c.done = false) (behind : c.frame.length < c.pos + kPackageHeaderSize) :
    ∃ position, HeaderAt bytes position c.frameOffset ∧ c.file.rest = bytes.drop position := by
  obtain hdone | ⟨position, hrest, hheader⟩ := h.ahead
  · exact absurd (done.symm.trans hdone) (by decide)
  · exact ⟨position, hheader (.behind behind), hrest⟩

theorem turn_again {c' : Cursor} (again : c.turn = .inl c') : c'.InChain bytes := by
  have hcase := turn_turnCase h.fault
  rw [again] at hcase
  cases hcase with
  | load done behind whole size request fits =>
    obtain ⟨position, hheader, hrest⟩ := h.headerAt done behind
    refine ⟨h.fault, .inr ⟨position + kFrameHeaderSize + size, ?_, fun hpasses => ?_⟩⟩
    · simp only [loaded, hrest, List.drop_drop]
    · have hnext := hheader.next ((frameRequest_eq hrest).trans request) fits
        (slice_of_rest hrest _ _ ▸ hpasses)
      rw [slice, ← hrest] at hnext
      exact hnext

/-- Behind a header that is refused the cursor looks for the next one. -/
theorem refused (done : c.done = false) (behind : c.frame.length < c.pos + kPackageHeaderSize)
    (whole : kFrameHeaderSize ≤ c.file.rest.length)
    (request : ∀ size ∈ c.request, kByteVectorMaxSize < size) (truncated : Bool) :
    (c.behindHeader truncated).InChain bytes := by
  obtain ⟨position, hheader, hrest⟩ := h.headerAt done behind
  refine ⟨h.fault, .inr ⟨position + kFrameHeaderSize, ?_, fun _ => hheader.refused ?_ ?_⟩⟩
  · simp only [behindHeader, hrest, List.drop_drop]
  · rw [hrest, List.length_drop] at whole
    simp only [kFrameHeaderSize] at whole ⊢
    omega
  · rw [frameRequest_eq hrest]
    exact request

theorem turn_returns {c' : Cursor} {result : Except Lvx2Failure (Option Lvx2Packet)}
    (returns : c.turn = .inr (result, c')) : c'.InChain bytes := by
  have hcase := turn_turnCase h.fault
  rw [returns] at hcase
  cases hcase with
  | ended => exact h
  | fileEnd => exact ⟨h.fault, .inl rfl⟩
  | badHeader done behind whole request e kind truncated =>
    exact h.refused done behind whole (by simp [request]) truncated
  | tooLarge done behind whole size request large truncated =>
    exact h.refused done behind whole (by simpa [request] using large) truncated
  | unsupported => exact h
  | badLength => exact h
  | cutPoints => exact ⟨h.fault, .inl rfl⟩
  | package done dataType type whole inside =>
    obtain hdone | ⟨position, hrest, hheader⟩ := h.ahead
    · exact ⟨h.fault, .inl hdone⟩
    · exact ⟨h.fault, .inr ⟨position, hrest,
        fun hpasses => hheader (.package rfl type whole inside hpasses)⟩⟩

theorem nextPacket : c.nextPacket.2.InChain bytes := by
  refine WhileLoop.exec_induction (I := InChain bytes) (Q := fun r => r.2.InChain bytes)
    turn_decreases ?_ ?_ h
  · intro c c' hc again
    exact hc.turn_again again
  · rintro c ⟨result, c'⟩ hc returns
    exact hc.turn_returns returns

/-- A frame of an honest file that is asked for is there. -/
theorem request_le (honest : HonestFrames bytes) (done : c.done = false)
    (behind : c.frame.length < c.pos + kPackageHeaderSize) {size : ℕ}
    (request : c.request = some size) :
    size ≤ c.file.rest.length - kFrameHeaderSize ∧ size ≤ bytes.length := by
  obtain ⟨position, hheader, hrest⟩ := h.headerAt done behind
  have hle := honest position c.frameOffset size hheader ((frameRequest_eq hrest).trans request)
  rw [hrest, List.length_drop]
  omega

/-- So no call ends with an exception. -/
theorem nextPacket_ne_lengthError (honest : HonestFrames bytes) (hbytes : bytes.length < 2 ^ 63) :
    c.nextPacket.1 ≠ .error .lengthError := by
  refine WhileLoop.exec_induction (I := InChain bytes) (Q := fun r => r.1 ≠ .error .lengthError)
    turn_decreases (fun c c' hc again => hc.turn_again again) ?_ h
  rintro c ⟨result, c'⟩ hc returns rfl
  have hcase := turn_turnCase hc.fault
  rw [returns] at hcase
  cases hcase with
  | tooLarge done behind whole size request large =>
    have hle := (hc.request_le honest done behind request).2
    simp only [kByteVectorMaxSize] at large
    omega

end InChain

end Cursor

namespace Cursor

section Turns

variable {c : Cursor}

/-- A frame is asked for when its whole header is there. -/
theorem whole_of_request {size : ℕ} (h : c.request = some size) :
    kFrameHeaderSize ≤ c.file.rest.length := by
  unfold request at h
  dsimp only at h
  split_ifs at h with hnone
  rw [not_or, not_lt, List.length_take] at hnone
  omega

/-- **A turn at a frame header**: the frame is loaded, or the header is refused and skipped. -/
theorem turn_at_header (fault : c.file.fault = none) (done : c.done = false)
    (behind : c.frame.length < c.pos + kPackageHeaderSize)
    (whole : kFrameHeaderSize ≤ c.file.rest.length) :
    (∃ size truncated, c.request = some size ∧ size ≤ kByteVectorMaxSize ∧
      c.turn = .inl (c.loaded size truncated)) ∨
    (∀ size ∈ c.request, kByteVectorMaxSize < size) ∧
      ∃ e truncated, c.turn = .inr (.error e, c.behindHeader truncated) := by
  have hcase := turn_turnCase fault
  generalize c.turn = t at hcase ⊢
  cases hcase with
  | load _ _ _ size request fits truncated => exact .inl ⟨size, truncated, request, fits, rfl⟩
  | badHeader _ _ _ request e _ truncated => exact .inr ⟨by simp [request], _, truncated, rfl⟩
  | tooLarge _ _ _ size request large truncated =>
    exact .inr ⟨by simpa [request] using large, _, truncated, rfl⟩
  | ended done' => exact absurd (done.symm.trans done') nofun
  | fileEnd _ _ short => omega
  | unsupported _ inside | badLength _ inside | cutPoints _ inside => omega
  | package _ _ _ _ inside => omega

/-- The turn that returns a package. -/
theorem turn_returns_package (done : c.done = false) {dataType : DataType}
    (type : packageDataType c.packageHeader.type = some dataType)
    (whole : c.packageHeader.length.toNat % sampleSize dataType = 0)
    (inside : c.pos + kPackageHeaderSize + c.packageHeader.length.toNat ≤ c.frame.length) :
    c.turn = .inr (.ok (some (packetOf c.frameIndex dataType c.packageHeader
        (slice c.frame (c.pos + kPackageHeaderSize) c.packageHeader.length.toNat))),
      { c with pos := c.pos + kPackageHeaderSize + c.packageHeader.length.toNat }) := by
  unfold turn
  rw [if_neg (by rw [done]; decide), if_neg (by omega)]
  dsimp only
  rw [← packageHeader, type]
  dsimp only
  rw [if_neg (not_not.mpr whole), if_neg (Nat.not_lt.mpr inside)]
  rfl

end Turns

variable {c : Cursor}

/-- The points that a turn returns lie in the frame buffer. -/
theorem turn_points_inside {c' : Cursor} {result : Except Lvx2Failure (Option Lvx2Packet)}
    (fault : c.file.fault = none) (returns : c.turn = .inr (result, c')) :
    c'.file.fault = none ∧ ∀ p, result = .ok (some p) →
      ∃ off, off + p.points.length ≤ c'.frame.length ∧
        p.points = slice c'.frame off p.points.length := by
  have hcase := turn_turnCase fault
  rw [returns] at hcase
  cases hcase with
  | ended => exact ⟨fault, nofun⟩
  | fileEnd => exact ⟨fault, nofun⟩
  | badHeader => exact ⟨fault, nofun⟩
  | tooLarge => exact ⟨fault, nofun⟩
  | unsupported => exact ⟨fault, nofun⟩
  | badLength => exact ⟨fault, nofun⟩
  | cutPoints => exact ⟨fault, nofun⟩
  | package done dataType type whole inside =>
    refine ⟨fault, fun p hp => ?_⟩
    obtain rfl := Option.some.inj (Except.ok.inj hp)
    have hpoints : (slice c.frame (c.pos + kPackageHeaderSize)
        c.packageHeader.length.toNat).length = c.packageHeader.length.toNat :=
      slice_length inside
    refine ⟨c.pos + kPackageHeaderSize, ?_, ?_⟩
    · simp only [packetOf, hpoints]
      exact inside
    · simp only [packetOf, hpoints]

theorem turn_again_fault {c' : Cursor} (fault : c.file.fault = none) (again : c.turn = .inl c') :
    c'.file.fault = none := by
  have hcase := turn_turnCase fault
  rw [again] at hcase
  cases hcase with
  | load => exact fault

/-- What `next_packet` returns is what the last turn of its loop does. -/
theorem nextPacket_lastTurn (fault : c.file.fault = none) :
    ∃ c' : Cursor, c'.file.fault = none ∧ c'.turn = .inr c.nextPacket := by
  refine WhileLoop.exec_induction (I := fun c => c.file.fault = none)
    (Q := fun r => ∃ c' : Cursor, c'.file.fault = none ∧ c'.turn = .inr r) turn_decreases ?_ ?_
    fault
  · intro c c' hc again
    exact turn_again_fault hc again
  · intro c r hc returns
    exact ⟨c, hc, returns⟩

theorem nextPacket_points_inside (fault : c.file.fault = none) :
    c.nextPacket.2.file.fault = none ∧ ∀ p, c.nextPacket.1 = .ok (some p) →
      ∃ off, off + p.points.length ≤ c.nextPacket.2.frame.length ∧
        p.points = slice c.nextPacket.2.frame off p.points.length := by
  obtain ⟨c', hfault, hturn⟩ := nextPacket_lastTurn fault
  exact turn_points_inside hfault hturn

end Cursor

section Reached

variable {fs : FileSystem} {path : String} {bytes : List UInt8}

variable {r : Lvx2Reader}

/-- What `open` returns depends on the bytes of the file only. -/
theorem open_fileSystemOf (hfile : fs path = .ok { rest := bytes }) (r : Lvx2Reader) :
    (r.open fs path).1 = (Lvx2Reader.open {} (fileSystemOf bytes) "file.lvx2").1 := by
  rw [open_eq {} r]
  unfold Lvx2Reader.open
  rw [hfile]
  rfl

theorem Reached.inChain (hfile : fs path = .ok { rest := bytes }) (h : Reached fs path r)
    (hopen : r.isOpen = true) : r.cursor.InChain bytes := by
  induction h with
  | new => exact absurd hopen (by decide)
  | @«open» r =>
    have hok := isOpen_open_iff.mp hopen
    obtain ⟨-, start, hstart, -, hcursor⟩ := open_ok hfile hok
    rw [hcursor]
    refine ⟨rfl, .inr ⟨start, rfl, fun _ => .first ?_ start hstart⟩⟩
    rw [← open_fileSystemOf hfile r]
    exact hok
  | @nextPacket r h ih =>
    rw [nextPacket_isOpen] at hopen
    rw [(nextPacket_cursor hopen).2]
    exact (ih hopen).nextPacket

theorem Reached.fault (hfile : fs path = .ok { rest := bytes }) (h : Reached fs path r)
    (hopen : r.isOpen = true) : r.cursor.file.fault = none :=
  (h.inChain hfile hopen).fault

/-! ### The reader comes to every one -/

/-- A turn that returns ends the call. -/
theorem nextPacket_of_turns (hopen : r.isOpen = true) {k : ℕ} {c c' : Cursor}
    {result : Except Lvx2Failure (Option Lvx2Packet)}
    (hturns : WhileLoop.turns Cursor.turn k r.cursor = .inl c)
    (returns : c.turn = .inr (result, c')) : r.nextPacket.2.cursor = c' := by
  rw [(nextPacket_cursor hopen).2, Cursor.nextPacket,
    WhileLoop.exec_of_turns Cursor.turn_decreases hturns,
    WhileLoop.exec_done Cursor.turn_decreases returns]

/-- A reader that has a frame before it gets to its end, if all packages are returned. -/
theorem Reached.passes {frame : List UInt8} {pos : ℕ} (hpasses : Passes frame pos)
    (h : Reached fs path r) (hopen : r.isOpen = true) {k : ℕ} {c : Cursor}
    (hturns : WhileLoop.turns Cursor.turn k r.cursor = .inl c) (done : c.done = false)
    (hframe : c.frame = frame) (hpos : c.pos = pos) :
    ∃ r' c', Reached fs path r' ∧ r'.LooksFrom c' ∧ c'.file = c.file ∧
      c'.frameOffset = c.frameOffset := by
  induction hpasses generalizing r k c with
  | behind hbehind =>
    subst hframe hpos
    exact ⟨r, c, h, ⟨hopen, ⟨k, hturns⟩, done, hbehind⟩, rfl, rfl⟩
  | package header type whole inside rest ih =>
    subst hframe hpos header
    have hcursor := nextPacket_of_turns hopen hturns
      (Cursor.turn_returns_package done type whole inside)
    have hopen' : r.nextPacket.2.isOpen = true := (nextPacket_isOpen r).trans hopen
    obtain ⟨r', c', hreach, hlooks, hfile, hoffset⟩ :=
      ih h.nextPacket hopen' (k := 0) rfl (by rw [hcursor]; exact done) (by rw [hcursor])
        (by rw [hcursor]; rfl)
    rw [hcursor] at hfile hoffset
    exact ⟨r', c', hreach, hlooks, hfile, hoffset⟩

/-- **Some calls lead to each header of the chain.** -/
theorem headerAt_reached (hfile : fs path = .ok { rest := bytes }) {position : ℕ}
    {frameOffset : UInt64} (h : HeaderAt bytes position frameOffset) :
    ∃ r c, Reached fs path r ∧ r.LooksFrom c ∧ c.file = { rest := bytes.drop position } ∧
      c.frameOffset = frameOffset := by
  induction h with
  | first opens start eq =>
    rw [← open_fileSystemOf hfile {}] at opens
    obtain ⟨hopen, start', hstart, -, hcursor⟩ := open_ok hfile opens
    obtain rfl : start' = start := hstart.trans eq.symm
    refine ⟨_, _, .open .new, ⟨hopen, ⟨0, rfl⟩, ?_, ?_⟩, ?_, ?_⟩ <;> rw [hcursor]
    exact Nat.zero_lt_succ _
  | @next position size frameOffset h request fits passes ih =>
    obtain ⟨r, c, hreach, hlooks, hc, rfl⟩ := ih
    have hrest : c.file.rest = bytes.drop position := by rw [hc]
    rw [Cursor.frameRequest_eq hrest] at request
    obtain ⟨size', truncated, request', -, hload⟩ :=
      (Cursor.turn_at_header (by rw [hc]) hlooks.done hlooks.behind
        (Cursor.whole_of_request request)).resolve_right fun hrefused =>
          absurd (hrefused.1 size request) (by omega)
    obtain rfl := Option.some.inj (request.symm.trans request')
    obtain ⟨k, hturns⟩ := hlooks.turns
    obtain ⟨r', c', hreach', hlooks', hc', hoffset⟩ :=
      hreach.passes passes hlooks.isOpen (WhileLoop.turns_snoc hturns hload) hlooks.done
        (Cursor.slice_of_rest hrest _ _) rfl
    refine ⟨r', c', hreach', hlooks', ?_, ?_⟩
    · rw [hc']
      simp only [Cursor.loaded, hc, List.drop_drop]
    · rw [hoffset, slice, ← hrest]
      rfl
  | @refused position frameOffset h whole request ih =>
    obtain ⟨r, c, hreach, hlooks, hc, rfl⟩ := ih
    have hrest : c.file.rest = bytes.drop position := by rw [hc]
    rw [Cursor.frameRequest_eq hrest] at request
    have hwhole : kFrameHeaderSize ≤ c.file.rest.length := by
      rw [hrest, List.length_drop]
      omega
    obtain ⟨-, e, truncated, hturn⟩ :=
      (Cursor.turn_at_header (by rw [hc]) hlooks.done hlooks.behind hwhole).resolve_left (by
        rintro ⟨size, -, request', fits, -⟩
        exact absurd (request size request') (by omega))
    obtain ⟨k, hturns⟩ := hlooks.turns
    have hcursor := nextPacket_of_turns hlooks.isOpen hturns hturn
    refine ⟨r.nextPacket.2, _, hreach.nextPacket, ⟨?_, ⟨0, congrArg Sum.inl hcursor⟩, ?_, ?_⟩,
      ?_, rfl⟩
    · exact (nextPacket_isOpen r).trans hlooks.isOpen
    · exact hlooks.done
    · exact hlooks.behind
    · simp only [Cursor.behindHeader, hc, List.drop_drop]

/-- **The reader asks for no more than the file has**, whatever is called and in whatever
order, and no call ends with an exception, if and only if no frame header that it comes to
promises more.  The points of a package lie in the frame buffer in any file. -/
theorem reader_demands_what_the_file_holds (hfile : fs path = .ok { rest := bytes }) :
    (bytes.length < 2 ^ 63 → (HonestFrames bytes ↔ ∀ r, Reached fs path r →
      r.nextPacket.1 ≠ .error .lengthError ∧ ∀ size left, r.Requests size left → size ≤ left)) ∧
    ∀ r, Reached fs path r → ∀ p, r.nextPacket.1 = .ok (some p) →
      ∃ off, off + p.points.length ≤ r.nextPacket.2.cursor.frame.length ∧
        p.points = slice r.nextPacket.2.cursor.frame off p.points.length := by
  have hclosed : ∀ r : Lvx2Reader, r.isOpen = false →
      r.nextPacket = (.error (.error (invalidArgument "not open")), r) := fun r h => if_pos h
  refine ⟨fun hbytes => ⟨fun honest r h => ⟨?_, ?_⟩, fun hall => ?_⟩, fun r h p hp => ?_⟩
  · cases hopen : r.isOpen with
    | false =>
      rw [hclosed r hopen]
      simp
    | true =>
      rw [(nextPacket_cursor hopen).1]
      exact (h.inChain hfile hopen).nextPacket_ne_lengthError honest hbytes
  · rintro size left ⟨c, ⟨hopen, ⟨k, hturns⟩, done, behind⟩, request, rfl⟩
    have hvisited := WhileLoop.turns_induction (I := Cursor.InChain bytes) (Q := fun _ => True)
      (fun _ _ hc again => hc.turn_again again) (fun _ _ _ _ => trivial) k
      (h.inChain hfile hopen)
    rw [hturns] at hvisited
    exact (hvisited.request_le honest done behind request).1
  · -- a header that promises too much is one that some calls come to
    intro position frameOffset size hheader request
    obtain ⟨r, c, hreach, hlooks, hc, rfl⟩ := headerAt_reached hfile hheader
    have hrest : c.file.rest = bytes.drop position := by rw [hc]
    rw [Cursor.frameRequest_eq hrest] at request
    have hle := (hall r hreach).2 size _ ⟨c, hlooks, request, rfl⟩
    have hwhole := Cursor.whole_of_request request
    rw [hrest, List.length_drop] at hle hwhole
    simp only [kFrameHeaderSize] at hle hwhole ⊢
    omega
  · cases hopen : r.isOpen with
    | false =>
      rw [hclosed r hopen] at hp
      exact absurd hp (by simp)
    | true =>
      obtain ⟨hresult, hcursor⟩ := nextPacket_cursor hopen
      rw [hresult] at hp
      rw [hcursor]
      exact (Cursor.nextPacket_points_inside (h.fault hfile hopen)).2 p hp

end Reached

theorem frameRequest_of_end {bytes : List UInt8} {position : ℕ} (h : bytes.length ≤ position)
    (frameOffset : UInt64) : frameRequest bytes position frameOffset = none := by
  refine if_pos (.inl ?_)
  rw [List.drop_eq_nil_of_le h]
  simp [kFrameHeaderSize]

/-- The frame of `onePackageFile` is as long as its header says. -/
theorem honestFrames_onePackageFile : HonestFrames onePackageFile := by
  have hfirst : frameRequest onePackageFile 29 29 = some 27 := by decide +kernel
  have hlength : onePackageFile.length = 80 := by decide +kernel
  have hcount : readLe UInt8 onePackageFile 28 = 0 := by decide +kernel
  have hwhere : ∀ position frameOffset, HeaderAt onePackageFile position frameOffset →
      (position = 29 ∧ frameOffset = 29) ∨ 80 ≤ position := by
    intro position frameOffset h
    induction h with
    | first _ start eq =>
      rw [hcount] at eq
      subst eq
      exact .inl ⟨rfl, rfl⟩
    | next h request _ _ ih =>
      obtain ⟨rfl, rfl⟩ | hend := ih
      · rw [hfirst, Option.some.injEq] at request
        simp only [kFrameHeaderSize]
        omega
      · rw [frameRequest_of_end (hlength ▸ hend)] at request
        exact absurd request (by simp)
    | refused h whole request ih =>
      obtain ⟨rfl, rfl⟩ | hend := ih
      · exact absurd (request 27 hfirst) (by decide)
      · exact .inr (hend.trans (Nat.le_add_right ..))
  intro position frameOffset size h request
  obtain ⟨rfl, rfl⟩ | hend := hwhere position frameOffset h
  · rw [hfirst, Option.some.injEq] at request
    rw [hlength, ← request, kFrameHeaderSize]
  · rw [frameRequest_of_end (hlength ▸ hend)] at request
    exact absurd request (by simp)

theorem reader_demands_onePackageFile :
    HonestFrames onePackageFile ∧
      (readerOf onePackageFile).nextPacket.1 ≠ .error .lengthError ∧
      ∀ size left, (readerOf onePackageFile).Requests size left → size ≤ left := by
  refine ⟨honestFrames_onePackageFile, ?_⟩
  exact ((reader_demands_what_the_file_holds rfl).1 (by decide +kernel)).mp
    honestFrames_onePackageFile _ (reached_readerOf onePackageFile)

/-- A file of 53 bytes whose only frame header promises all the bytes there can be. -/
def hugeFrameFile : List UInt8 :=
  encodeFileHeader [] 50 ++
    (encodeLe (29 : UInt64) ++ (encodeLe (0xFFFFFFFFFFFFFFFF : UInt64) ++ encodeLe (0 : UInt64)))

/-- The first package of `hugeFrameFile` is asked for with a buffer of almost `2 ^ 64` bytes,
although the file has none left, and the call throws. -/
theorem huge_frame_throws :
    hugeFrameFile.length = 53 ∧
      Reached (fileSystemOf hugeFrameFile) "file.lvx2" (readerOf hugeFrameFile) ∧
      (readerOf hugeFrameFile).nextPacket.1 = .error .lengthError ∧
      (readerOf hugeFrameFile).Requests 18446744073709551562 0 := by
  have hlooks : (readerOf hugeFrameFile).LooksFrom (readerOf hugeFrameFile).cursor :=
    ⟨by decide +kernel, ⟨0, rfl⟩, by decide +kernel, by decide +kernel⟩
  refine ⟨by decide +kernel, reached_readerOf _, by decide +kernel, _, hlooks, ?_, ?_⟩
  all_goals
    decide +kernel

end Lvx2Reader

end LivoxMid360
