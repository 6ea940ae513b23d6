import LivoxMid360.FrameAssembler.Conservation
import LivoxMid360.Lvx2.AnyFile
import LivoxMid360.Lvx2.RoundTrip

/-!
# Errors and packages of hostile files

Two results about what a caller of the reader can rely on in a file that was not written
by `Lvx2Writer`.

* `reader_errors_are_final`: behind an error no call returns a package, when the error is
  about a package, or nothing ahead passes for the frame header the reader looks for.  A
  frame header that is refused has been read, though, and the next call goes on behind it:
  `package_behind_a_bad_header` is a file where it finds a package.
* `package_replays_all_points`: a package of at most 65535 points becomes a well-formed data
  packet, and the frame assembler takes all its points.  The number of points of a data
  packet has 16 bits and the length of a package has 32, so a larger package loses points:
  `large_package_loses_its_points` has 65536 of them and keeps none.
-/

namespace LivoxMid360

open LittleEndian Lvx2

namespace Lvx2Reader

/-! ## Behind an error -/

namespace Cursor

/-- The cursor with `n` frame headers less ahead. -/
def skipHeaders (c : Cursor) (n : ℕ) : Cursor :=
  { c with file := { c.file with rest := c.file.rest.drop (kFrameHeaderSize * n) } }

/-- Nothing ahead passes for the frame header the cursor looks for, in steps of the size
of a header. -/
def NoFrameAhead (c : Cursor) : Prop :=
  ∀ n, (c.skipHeaders n).request = none

/-- The cursor is at a package that it refuses, or finds no more frames. -/
def Stuck (c : Cursor) : Prop :=
  c.file.fault = none ∧ ((∃ e, c.turn = .inr (.error e, c)) ∨ c.done = true ∨
    (c.frame.length < c.pos + kPackageHeaderSize ∧ c.NoFrameAhead))

variable {c : Cursor}

/-- A cursor that has read a header it refuses finds no more than before. -/
theorem NoFrameAhead.behindHeader (h : c.NoFrameAhead) (truncated : Bool) :
    (c.behindHeader truncated).NoFrameAhead := by
  intro n
  rw [← h (n + 1)]
  simp only [request, skipHeaders, Cursor.behindHeader, List.drop_drop, Nat.mul_succ, Nat.add_comm]

/-- A stuck cursor returns no package, and stays stuck. -/
theorem Stuck.nextPacket (h : c.Stuck) :
    c.nextPacket.2.Stuck ∧ ∀ p, c.nextPacket.1 ≠ .ok (some p) := by
  obtain ⟨fault, ⟨e, hrefused⟩ | hstuck⟩ := h
  · rw [nextPacket_done hrefused]
    exact ⟨⟨fault, .inl ⟨e, hrefused⟩⟩, nofun⟩
  · have hcase := turn_turnCase fault
    generalize hturn : c.turn = result at hcase
    cases hcase with
    | ended done =>
      rw [nextPacket_done hturn]
      exact ⟨⟨fault, .inr (.inl done)⟩, nofun⟩
    | fileEnd =>
      rw [nextPacket_done hturn]
      exact ⟨⟨fault, .inr (.inl rfl)⟩, nofun⟩
    -- a refused header is skipped, and none of those behind it is accepted
    | badHeader done behind whole request e kind truncated =>
      rw [nextPacket_done hturn]
      obtain hdone | ⟨-, hahead⟩ := hstuck
      · exact absurd (done.symm.trans hdone) (by decide)
      · exact ⟨⟨fault, .inr (.inr ⟨behind, hahead.behindHeader truncated⟩)⟩, nofun⟩
    | tooLarge done behind whole size request | load done behind whole size request =>
      obtain hdone | ⟨-, hahead⟩ := hstuck
      · exact absurd (done.symm.trans hdone) (by decide)
      · exact absurd (request.symm.trans (hahead 0)) (by simp)
    | unsupported | badLength =>
      rw [nextPacket_done hturn]
      exact ⟨⟨fault, .inl ⟨_, hturn⟩⟩, nofun⟩
    | cutPoints =>
      rw [nextPacket_done hturn]
      exact ⟨⟨fault, .inr (.inl rfl)⟩, nofun⟩
    | package done =>
      obtain hdone | ⟨behind, -⟩ := hstuck
      · exact absurd (done.symm.trans hdone) (by decide)
      · omega

/-- An error leaves the cursor at the package that it refuses, or behind a frame header. -/
theorem nextPacket_error (fault : c.file.fault = none) {e : Lvx2Failure}
    (h : c.nextPacket.1 = .error e) :
    c.nextPacket.2.file.fault = none ∧
      (c.nextPacket.2.turn = .inr (.error e, c.nextPacket.2) ∨
        c.nextPacket.2.frame.length < c.nextPacket.2.pos + kPackageHeaderSize) := by
  obtain ⟨c', hfault, hturn⟩ := nextPacket_lastTurn fault
  refine ⟨(turn_points_inside hfault hturn).1, ?_⟩
  have hcase := turn_turnCase hfault
  rw [hturn] at hcase
  revert h hcase
  generalize c.nextPacket = r at hturn
  intro h hcase
  cases hcase with
  | ended => exact nomatch h
  | fileEnd => exact nomatch h
  | badHeader done behind => exact .inr behind
  | tooLarge done behind => exact .inr behind
  | unsupported | badLength =>
    rw [← h]
    exact .inl hturn
  | cutPoints => exact nomatch h
  | package => exact nomatch h

end Cursor

/-- Behind a stuck cursor there are no more packages. -/
theorem after_of_stuck {r : Lvx2Reader} (hopen : r.isOpen = true) (h : r.cursor.Stuck) (n : ℕ)
    (p : Lvx2Packet) : (r.after n).nextPacket.1 ≠ .ok (some p) := by
  induction n generalizing r with
  | zero =>
    rw [after, (nextPacket_cursor hopen).1]
    exact h.nextPacket.2 p
  | succ n ih =>
    refine ih ((nextPacket_isOpen r).trans hopen) ?_
    rw [(nextPacket_cursor hopen).2]
    exact h.nextPacket.1

/-- **Errors of the reader are final**, in every file, when they are about a package or when
nothing ahead passes for the frame header that the reader looks for. -/
theorem reader_errors_are_final {fs : FileSystem} {path : String} {bytes : List UInt8}
    (hfile : fs path = .ok { rest := bytes }) {r : Lvx2Reader} (h : Reached fs path r)
    {e : Lvx2Error} (herror : r.nextPacket.1 = .error (.error e))
    (hkind : e.kind = .kBadFile ∨ e.kind = .kUnsupportedDataType)
    (hahead : r.nextPacket.2.cursor.pos + kPackageHeaderSize ≤
        r.nextPacket.2.cursor.frame.length ∨ r.nextPacket.2.cursor.NoFrameAhead)
    (n : ℕ) (p : Lvx2Packet) : (r.nextPacket.2.after n).nextPacket.1 ≠ .ok (some p) := by
  have hopen : r.isOpen = true := by
    by_contra hclosed
    rw [nextPacket, if_pos (Bool.eq_false_iff.mpr hclosed)] at herror
    obtain rfl := Lvx2Failure.error.inj (Except.error.inj herror)
    exact absurd hkind (by decide)
  obtain ⟨hresult, hcursor⟩ := nextPacket_cursor hopen
  rw [hcursor] at hahead
  obtain ⟨fault, hrefused | hbehind⟩ :=
    Cursor.nextPacket_error (h.fault hfile hopen) (hresult.symm.trans herror)
  · refine after_of_stuck ((nextPacket_isOpen r).trans hopen) ?_ n p
    rw [hcursor]
    exact ⟨fault, .inl ⟨_, hrefused⟩⟩
  · obtain hinside | hnone := hahead
    · omega
    · refine after_of_stuck ((nextPacket_isOpen r).trans hopen) ?_ n p
      rw [hcursor]
      exact ⟨fault, .inr (.inr ⟨hbehind, hnone⟩)⟩

/-- A file whose first frame header does not have its own offset, and ends with it. -/
def badHeaderFile : List UInt8 :=
  encodeFileHeader [] 50 ++ encodeFrameHeader 0 0 0

theorem reader_errors_are_final_badHeaderFile :
    (∃ e, (readerOf badHeaderFile).nextPacket.1 = .error (.error e) ∧ e.kind = .kBadFile) ∧
      ∀ n p, ((readerOf badHeaderFile).nextPacket.2.after n).nextPacket.1 ≠ .ok (some p) := by
  have herror : (readerOf badHeaderFile).nextPacket.1 = .error (.error
      (badFile "frame header at 29 says current_offset 0")) := by
    decide +kernel
  have hrest : (readerOf badHeaderFile).nextPacket.2.cursor.file.rest = [] := by
    decide +kernel
  have hahead : (readerOf badHeaderFile).nextPacket.2.cursor.NoFrameAhead := by
    intro n
    refine if_pos (.inl ?_)
    rw [Cursor.skipHeaders, hrest]
    simp [kFrameHeaderSize]
  refine ⟨⟨_, herror, rfl⟩, fun n p => ?_⟩
  exact reader_errors_are_final rfl (reached_readerOf badHeaderFile) herror (.inl rfl)
    (.inr hahead) n p

/-- A file with a frame header that does not have its own offset, and behind it a frame
whose header has the offset of the first. -/
def resumedFile : List UInt8 :=
  encodeFileHeader [] 50 ++ (encodeFrameHeader 0 0 0 ++
    (encodeFrameHeader 29 0 kPackageHeaderSize ++ encodePackage {}))

/-- In `resumedFile` the first call fails with `kBadFile`, and the second returns a
package. -/
theorem package_behind_a_bad_header : (readerOf resumedFile).nextPacket.1 = .error (.error
        (badFile "frame header at 29 says current_offset 0")) ∧
      (readerOf resumedFile).nextPacket.2.nextPacket.1 = .ok (some {}) := by
  refine ⟨by decide +kernel, by decide +kernel⟩

end Lvx2Reader

/-! ## Packages as data packets -/

section Points

open FrameAssembler

/-- The points of the frame a call of `push` returns, and of the partial frame it leaves. -/
def FrameAssembler.pointsAfter (pushed : Option Frame × FrameAssembler) : ℕ :=
  (pushed.1.elim 0 fun frame => frame.points.length) + pushed.2.cur.points.length

/-- The frame assembler takes the points of a packet it accepts. -/
theorem FrameAssembler.pointsAfter_push {s : FrameAssembler} {pkt : DataPacketView}
    {recvTimeNs : UInt64} (h : s.accepts pkt recvTimeNs = true) :
    pointsAfter (s.push pkt recvTimeNs) = s.cur.points.length + pkt.header.dotNum.toNat := by
  rw [push_accepted h]
  obtain ⟨-, -, -, ⟨hnone, hmerged, -⟩ | ⟨hsome, hmerged, -⟩⟩ := accept_cases
    (s.observe pkt.header recvTimeNs).2 pkt (s.observe pkt.header recvTimeNs).1
  · rw [pointsAfter, hnone, hmerged.points_length, observe_cur, Option.elim_none, Nat.zero_add]
  · rw [pointsAfter, hsome, hmerged.points_length, Option.elim_some, List.length_nil, Nat.zero_add]
    rfl

end Points

namespace Lvx2Reader

/-- A package that is returned has Cartesian samples, a whole number of them. -/
theorem nextPacket_whole {c : Cursor} (fault : c.file.fault = none) {p : Lvx2Packet}
    (h : c.nextPacket.1 = .ok (some p)) :
    (p.dataType = .kCartesian32 ∨ p.dataType = .kCartesian16) ∧
      p.points.length % sampleSize p.dataType = 0 := by
  obtain ⟨c', hfault, hturn⟩ := Cursor.nextPacket_lastTurn fault
  have hcase := Cursor.turn_turnCase hfault
  rw [hturn] at hcase
  revert h hcase
  generalize c.nextPacket = r
  intro h hcase
  cases hcase with
  | ended => exact nomatch h
  | fileEnd => exact nomatch h
  | badHeader => exact nomatch h
  | tooLarge => exact nomatch h
  | unsupported => exact nomatch h
  | badLength => exact nomatch h
  | cutPoints => exact nomatch h
  | package done dataType type whole inside =>
    obtain rfl := Option.some.inj (Except.ok.inj h)
    refine ⟨?_, ?_⟩
    · unfold packageDataType at type
      split_ifs at type with h32 h16
      · exact .inl (Option.some.inj type).symm
      · exact .inr (Option.some.inj type).symm
    · simp only [packetOf, slice_length inside]
      exact whole

/-- **A package read from a file replays all its points**, when it has at most 65535. -/
theorem package_replays_all_points {fs : FileSystem} {path : String} {bytes : List UInt8}
    (hfile : fs path = .ok { rest := bytes }) {r : Lvx2Reader} (h : Reached fs path r)
    {p : Lvx2Packet} (hreturned : r.nextPacket.1 = .ok (some p))
    (hcount : p.points.length / sampleSize p.dataType ≤ 65535) :
    p.toDataPacketView.WellFormed ∧ ∀ (s : FrameAssembler) (recvTimeNs : UInt64),
      s.accepts p.toDataPacketView recvTimeNs = true →
        FrameAssembler.pointsAfter (s.push p.toDataPacketView recvTimeNs) =
          s.cur.points.length + p.points.length / sampleSize p.dataType := by
  have hopen : r.isOpen = true := by
    by_contra hclosed
    rw [nextPacket, if_pos (Bool.eq_false_iff.mpr hclosed)] at hreturned
    exact absurd hreturned (by simp)
  rw [(nextPacket_cursor hopen).1] at hreturned
  obtain ⟨-, hwhole⟩ := nextPacket_whole (h.fault hfile hopen) hreturned
  have hdots : p.toDataPacketView.header.dotNum.toNat =
      p.points.length / sampleSize p.dataType :=
    UInt16.toNat_ofNat_of_lt' (Nat.lt_succ_of_le hcount)
  refine ⟨?_, fun s recvTimeNs haccepts => ?_⟩
  · rw [DataPacketView.WellFormed, hdots]
    exact (Nat.div_mul_cancel (Nat.dvd_of_mod_eq_zero hwhole)).symm
  · rw [FrameAssembler.pointsAfter_push haccepts, hdots]

/-- With more points it does not: the number of points of a data packet has 16 bits. -/
theorem count_le_of_wellFormed {p : Lvx2Package} (h : p.toDataPacketView.WellFormed) :
    p.points.length / sampleSize p.dataType ≤ 65535 := by
  have hlength : p.points.length =
      p.toDataPacketView.header.dotNum.toNat * sampleSize p.dataType := h
  have hdots := p.toDataPacketView.header.dotNum.toNat_lt
  apply Nat.div_le_of_le_mul
  rw [hlength, Nat.mul_comm]
  exact Nat.mul_le_mul_left _ (Nat.le_of_lt_succ hdots)

/-- A package of Cartesian points, all at the origin. -/
def zeroPackage (count : ℕ) : Lvx2Package :=
  { points := List.replicate (14 * count) 0 }

/-- The file with one package of points reads back. -/
theorem nextPacket_zeroPackage {count : ℕ} (h : count ≤ 65536) :
    (readerOf (encodeFile [] 50 [[zeroPackage count]])).nextPacket.1 =
      .ok (some (packetAt 0 (zeroPackage count))) := by
  have hpoints : (zeroPackage count).points.length = 14 * count := List.length_replicate
  have hvalid : ∀ packages ∈ [[zeroPackage count]], ∀ p ∈ packages, p.Valid := by
    intro packages mem p mem'
    obtain rfl := List.mem_singleton.mp mem
    obtain rfl := List.mem_singleton.mp mem'
    refine ⟨.inl rfl, ?_, ?_⟩
    · rw [hpoints]
      exact Nat.mul_mod_right 14 count
    · rw [hpoints]
      omega
  have hsize : (encodeFile [] 50 [[zeroPackage count]]).length < 2 ^ 63 := by
    simp only [encodeFile, encodeFrames, encodeFrame_length, frameSize, encodeBody,
      encodePackage_length, encodeFileHeader_length, List.length_append, List.flatMap_cons,
      List.flatMap_nil, List.length_nil, hpoints, kFrameHeaderSize, kPackageHeaderSize,
      kFileHeaderSize]
    omega
  have hfile : fileSystemOf (encodeFile [] 50 [[zeroPackage count]]) "file.lvx2" =
      .ok { rest := encodeFile [] 50 [[zeroPackage count]] } := rfl
  obtain ⟨-, -, -, hopen, hreads⟩ := open_whole_encodeFile {} (by decide) hvalid hsize hfile
  exact (hreads.yields hopen 0).1

theorem package_replays_all_points_of_one :
    (readerOf (encodeFile [] 50 [[zeroPackage 1]])).nextPacket.1 =
        .ok (some (packetAt 0 (zeroPackage 1))) ∧
      (packetAt 0 (zeroPackage 1)).toDataPacketView.WellFormed := by
  have hone : 1 ≤ 65536 := by decide
  have hreturned := nextPacket_zeroPackage hone
  refine ⟨hreturned, ?_⟩
  exact (package_replays_all_points rfl (reached_readerOf _) hreturned (by decide)).1

/-- The data packet of a package of 65536 points has none. -/
theorem dotNum_of_large {p : Lvx2Package} (h : p.points.length / sampleSize p.dataType = 65536) :
    p.toDataPacketView.header.dotNum = 0 := by
  show UInt16.ofNat (p.points.length / sampleSize p.dataType) = 0
  rw [h]
  rfl

/-- A package of 65536 points is returned, but its data packet has none, and `push` ignores
it. -/
theorem large_package_loses_its_points :
    (readerOf (encodeFile [] 50 [[zeroPackage 65536]])).nextPacket.1 =
        .ok (some (packetAt 0 (zeroPackage 65536))) ∧
      ¬(packetAt 0 (zeroPackage 65536)).toDataPacketView.WellFormed ∧
      ∀ (s : FrameAssembler) (recvTimeNs : UInt64),
        s.push (packetAt 0 (zeroPackage 65536)).toDataPacketView recvTimeNs = (none, s) := by
  have hcount : ∀ n, (packetAt 0 (zeroPackage n)).points.length /
      sampleSize (packetAt 0 (zeroPackage n)).dataType = n := by
    intro n
    rw [packetAt, zeroPackage, List.length_replicate]
    exact Nat.mul_div_cancel_left n (by decide)
  refine ⟨nextPacket_zeroPackage le_rfl, fun hwell => ?_,
    fun s recvTimeNs => FrameAssembler.push_ignored ?_⟩
  · have hfits := count_le_of_wellFormed hwell
    rw [hcount] at hfits
    exact absurd hfits (by decide)
  · rw [FrameAssembler.isIgnored, dotNum_of_large (hcount _)]
    exact Bool.or_true _

end Lvx2Reader

end LivoxMid360
