import LivoxMid360.Lvx2.RoundTrip

/-!
# Recordings with failed writes

A call of `write` that meets a full disk returns an error, and the caller may go on: the
open frame is still in memory, and the next call tries to move it to the file again.

`failed_writes_keep_the_recording` says when that works, in terms of the two calls of
`fwrite` that move a frame to the file.  As long as every flush stores nothing of the frame
header or all of the header and of the body (`WholeFlushes`), a call that fails has left
nothing behind (`write_error_bytes`), and a recording that closes reads back as the packets
that `write` took.  A flush that has stored the header of a frame but not its body has left
bytes behind, and the header is written a second time: `torn_frame_corrupts` is such a
recording.  It closes without an error, and the reader finds no package in it.
-/

namespace LivoxMid360

open Lvx2

theorem Disk.fwrite_bytes (d : Disk) (b : List UInt8) :
    (d.fwrite b).2.bytes = d.bytes ++ b.take (d.fwrite b).1 :=
  rfl

namespace Lvx2Writer

/-- The call of `write` flushes the open frame first: the packet is recorded, and it belongs
to a later slot than the frame. -/
def cutsFrame (w : Lvx2Writer) (p : ℕ × DataPacketView) : Bool :=
  w.isOpen && decide (p.1 < w.lidarIds.length) && isRecorded p.2 &&
    w.frameSlot.any fun frameSlot =>
      decide ((w.advanceClock p.1 p.2.header.timestampNs).1 > frameSlot)

/-- What the calls of `fwrite` in `flush_frame` store: nothing of the frame header, or the
header and the body. -/
def FlushesWhole (w : Lvx2Writer) : Prop :=
  let first := w.disk.fwrite (encodeFrameHeader w.offset w.frameIndex w.frame.length)
  first.1 = 0 ∨ first.1 = kFrameHeaderSize ∧ (first.2.fwrite w.frame).1 = w.frame.length

/-- Every flush among the calls of `write` is such a one. -/
def WholeFlushes (w : Lvx2Writer) : List (ℕ × DataPacketView) → Prop
  | [] => True
  | p :: writes =>
    (w.cutsFrame p = true → w.FlushesWhole) ∧ (w.write p.1 p.2).2.WholeFlushes writes

section Calls

variable {w : Lvx2Writer} {e : Lvx2Error}

/-- `write_bytes` is one call of `fwrite`, and an error unless it is complete. -/
theorem writeBytes_eq {b : List UInt8} (h : b ≠ []) :
    w.writeBytes b =
      (if (w.disk.fwrite b).1 ≠ b.length then
        .error (ioError (w.disk.fwrite b).2.fwriteErrno "write") else .ok (),
      { w with disk := (w.disk.fwrite b).2 }) := by
  rw [writeBytes, if_neg h]
  dsimp only
  split_ifs <;> rfl

/-- A whole flush that fails has stored nothing. -/
theorem flushFrame_error_bytes (hwhole : w.FlushesWhole) (h : w.flushFrame.1 = .error e) :
    w.flushFrame.2.disk.bytes = w.disk.bytes := by
  have hlength := encodeFrameHeader_length w.offset w.frameIndex w.frame.length
  have hheader : encodeFrameHeader w.offset w.frameIndex w.frame.length ≠ [] :=
    List.ne_nil_of_length_eq_add_one hlength
  by_cases hframe : w.frame = []
  · rw [flushFrame, if_pos hframe] at h
    exact absurd h nofun
  rw [flushFrame, if_neg hframe, writeBytes_eq hheader] at h ⊢
  dsimp only [FlushesWhole] at hwhole
  obtain hnone | ⟨hstored, hbody⟩ := hwhole
  · rw [if_pos (by rw [hnone, hlength]; decide)]
    dsimp only
    rw [Disk.fwrite_bytes, hnone, List.take_zero, List.append_nil]
  · -- both calls are complete, so there is no error
    rw [if_neg (not_not.mpr (hstored.trans hlength.symm))] at h
    dsimp only at h
    rw [writeBytes_eq hframe, if_neg (not_not.mpr hbody)] at h
    exact absurd h nofun

/-- A call of `write` that fails leaves the file as it was, if its flush is whole. -/
theorem write_error_bytes {p : ℕ × DataPacketView}
    (hwhole : w.cutsFrame p = true → w.FlushesWhole) (h : (w.write p.1 p.2).1 = .error e) :
    (w.write p.1 p.2).2.disk.bytes = w.disk.bytes := by
  unfold write at h ⊢
  split_ifs at h ⊢ with hopen hindex
  · rfl
  · rfl
  cases hsamples : recordedSamples p.2 with
  | none => rfl
  | some =>
    rw [hsamples] at h
    dsimp only [cutFrame] at h ⊢
    -- `advanceClock` leaves the open frame and the file alone
    cases hslot : w.frameSlot with
    | none =>
      rw [show (w.advanceClock p.1 p.2.header.timestampNs).2.frameSlot = none from hslot] at h
      exact absurd h nofun
    | some frameSlot =>
      rw [show (w.advanceClock p.1 p.2.header.timestampNs).2.frameSlot = some frameSlot from
        hslot] at h ⊢
      dsimp only at h ⊢
      split_ifs at h ⊢ with hlater
      · have hcuts : w.cutsFrame p = true := by
          simp [cutsFrame, hopen, Nat.lt_of_not_le hindex, isRecorded_eq, hsamples, hslot, hlater]
        rcases hflushed : flushFrame _ with ⟨e' | _, w₁⟩
        · have hbytes := flushFrame_error_bytes
            (w := (w.advanceClock p.1 p.2.header.timestampNs).2) (hwhole hcuts)
            (congrArg Prod.fst hflushed)
          rwa [hflushed] at hbytes
        · rw [hflushed] at h
          exact absurd h nofun

end Calls

end Lvx2Writer

namespace Lvx2

/-- The packets for which `write` has returned true. -/
def taken (writes : List (ℕ × DataPacketView)) (results : List (Except Lvx2Error Bool)) :
    List (ℕ × DataPacketView) :=
  (writes.zip results).filterMap fun e =>
    match e.2 with
    | .ok true => some e.1
    | _ => none

end Lvx2

section Failures

variable {devices : List Lvx2DeviceInfo} {frameDurationMs : UInt32}

/-- A packet is in the recording exactly when `write` has returned true. -/
theorem taken_writeResult (p : ℕ × DataPacketView) :
    (taken [p] [writeResult devices p]).filterMap (packageOf devices) =
      (packageOf devices p).toList := by
  unfold taken writeResult
  rw [packageOf_eq, isRecorded_eq]
  by_cases hlisted : p.1 < devices.length
  · rw [if_pos hlisted, List.getElem?_eq_getElem hlisted]
    cases hsamples : recordedSamples p.2 with
    | none => rfl
    | some =>
      simp [packageOf_eq, hsamples, hlisted]
  · rw [if_neg hlisted, List.getElem?_eq_none (Nat.le_of_not_lt hlisted)]
    rfl

/-- **The calls of `write`**, when every flush is whole. -/
theorem Recorded.writeAll_whole {frames : List (List Lvx2Package)}
    {current : List Lvx2Package} {ignored : ℕ} {w : Lvx2Writer}
    (h : Recorded devices frameDurationMs frames current ignored w)
    {writes : List (ℕ × DataPacketView)} (hwhole : w.WholeFlushes writes) :
    ∃ frames' current' ignored', frames'.flatten ++ current' = frames.flatten ++ current ++
        (taken writes (w.writeAll writes).1).filterMap (packageOf devices) ∧
      Recorded devices frameDurationMs frames' current' ignored' (w.writeAll writes).2 := by
  induction writes generalizing frames current ignored w with
  | nil => exact ⟨frames, current, ignored, (List.append_nil _).symm, h⟩
  | cons p writes ih =>
    obtain ⟨hflush, hrest⟩ := hwhole
    have htaken : taken (p :: writes) (w.writeAll (p :: writes)).1 =
        taken [p] [(w.write p.1 p.2).1] ++
          taken writes ((w.write p.1 p.2).2.writeAll writes).1 := by
      simp only [taken, Lvx2Writer.writeAll, List.zip_cons_cons, ← List.filterMap_append]
      rfl
    obtain hfailed | ⟨hresult, frames₁, current₁, hflat₁, hrecorded⟩ := h.write p.1 p.2
    · obtain ⟨e, herror⟩ := hfailed.error
      obtain ⟨frames₂, current₂, ignored₂, hflat₂, hfinal⟩ :=
        ih (hfailed.kept (w.write_error_bytes hflush herror)) hrest
      refine ⟨frames₂, current₂, ignored₂, ?_, hfinal⟩
      rw [hflat₂, htaken, herror]
      rfl
    · obtain ⟨frames₂, current₂, ignored₂, hflat₂, hfinal⟩ := ih hrecorded hrest
      refine ⟨frames₂, current₂, ignored₂, ?_, hfinal⟩
      rw [hflat₂, hflat₁, htaken, hresult, List.filterMap_append, taken_writeResult,
        List.append_assoc]

theorem mem_of_mem_taken {writes : List (ℕ × DataPacketView)}
    {results : List (Except Lvx2Error Bool)} {p : ℕ × DataPacketView}
    (h : p ∈ taken writes results) : p ∈ writes := by
  obtain ⟨⟨p', result⟩, hmem, hsome⟩ := List.mem_filterMap.mp h
  have hsame : p' = p := by
    dsimp only at hsome
    split at hsome
    · exact Option.some.inj hsome
    · exact absurd hsome (by simp)
  exact hsame ▸ (List.of_mem_zip hmem).1

/-- A writer opens a file for 1 to 255 devices and a positive frame duration. -/
theorem args_of_open {disk : Disk} {path : String}
    (h : ((Lvx2Writer.new disk).open path devices frameDurationMs).1 = .ok ()) :
    devices ≠ [] ∧ devices.length ≤ 255 ∧ frameDurationMs ≠ 0 := by
  unfold Lvx2Writer.open at h
  split_ifs at h with hopen hargs hduration
  rw [not_or] at hargs
  exact ⟨hargs.1, Nat.le_of_not_lt hargs.2, hduration⟩

/-- `close` succeeds when the open frame has moved to the file. -/
theorem flushFrame_of_close {w : Lvx2Writer} (hopen : w.isOpen = true)
    (h : w.close.1 = .ok ()) :
    w.flushFrame.1 = .ok () ∧ w.close.2.disk.bytes = w.flushFrame.2.disk.bytes := by
  have hbytes : w.flushFrame.2.disk.fflush.2.bytes = w.flushFrame.2.disk.bytes := by
    unfold Disk.fflush
    split <;> rfl
  rw [Lvx2Writer.close, if_neg (by rw [hopen]; decide)] at h ⊢
  refine ⟨?_, hbytes⟩
  dsimp only at h
  split at h
  · exact absurd h (by simp)
  · exact h

/-- **A failed write does not corrupt the recording**, when every flush stores nothing of
the frame header or the whole frame: a recording that closes reads back as the packets that
`write` has taken, in order. -/
theorem failed_writes_keep_the_recording {disk : Disk} {path : String}
    {writes : List (ℕ × DataPacketView)} (hwell : ∀ p ∈ writes, p.2.WellFormed)
    (hopened : (record disk path devices frameDurationMs writes).opened = .ok ())
    (hwhole : ((Lvx2Writer.new disk).open path devices frameDurationMs).2.WholeFlushes writes)
    (hclosed : (record disk path devices frameDurationMs writes).closed = .ok ())
    {fs : FileSystem}
    (hfile : fs path =
      .ok { rest := (record disk path devices frameDurationMs writes).writer.disk.bytes })
    (r : Lvx2Reader) :
    (r.open fs path).1 = .ok () ∧ ∃ packets,
      packets.map Lvx2Packet.toLvx2Package =
        (taken writes (record disk path devices frameDurationMs writes).wrote).filterMap
          (packageOf devices) ∧
      (r.open fs path).2.Yields packets false := by
  obtain ⟨hdevices, hcount, hduration⟩ := args_of_open hopened
  obtain ⟨⟨e, herror⟩, -⟩ | ⟨-, hstart⟩ := recorded_open disk path hdevices hcount hduration
  · exact absurd (herror.symm.trans hopened) (by simp)
  obtain ⟨frames₁, current, ignored, hflat₁, hrecorded⟩ := hstart.writeAll_whole hwhole
  -- a `close` that succeeds has flushed the open frame
  obtain ⟨hflush, hbytes⟩ := flushFrame_of_close hrecorded.isOpen hclosed
  obtain hfailed | ⟨-, frames, hflat, hfinal⟩ := hrecorded.flushFrame
  · obtain ⟨e, herror⟩ := hfailed.error
    exact absurd (herror.symm.trans hflush) (by simp)
  have hchain : frames.flatten =
      (taken writes (record disk path devices frameDurationMs writes).wrote).filterMap
        (packageOf devices) := hflat.trans (hflat₁.trans (List.nil_append _))
  have hcontent : (record disk path devices frameDurationMs writes).writer.disk.bytes =
      encodeFile devices frameDurationMs frames := hbytes.trans hfinal.bytes
  have hsize : (encodeFile devices frameDurationMs frames).length < 2 ^ 63 :=
    hfinal.bytes ▸ hfinal.fits.trans_lt (Disk.limit_lt _)
  rw [hcontent] at hfile
  obtain ⟨hok, -, -, hopen, hreads⟩ := open_whole_encodeFile r hcount
    (frames_valid (fun p mem => hwell p (mem_of_mem_taken mem)) hchain) hsize hfile
  exact ⟨hok, numbered 0 frames, (numbered_map_package 0 frames).trans hchain, hreads.yields hopen⟩

end Failures

/-- A packet with one Cartesian sample, a tenth of a second later. -/
def laterView : DataPacketView :=
  { onePointView with header := { onePointView.header with timestampNs := 100000000 } }

/-- Three packets of the first device; the second one begins another frame. -/
def threeWrites : List (ℕ × DataPacketView) :=
  [(0, onePointView), (0, laterView), (0, laterView)]

/-- A disk on which call number `full` of `fwrite` finds no room. -/
def fullDisk (full : ℕ) : Disk where
  limit := 1048576
  limit_lt := by norm_num
  accepts := fun n => if n = full then 0 else 1048576

/-- The recording of `threeWrites` on such a disk. -/
def fullRecording (full : ℕ) : Recording :=
  record (fullDisk full) "full.lvx2" [{}] 50 threeWrites

/-- There is no room for the frame header: the second packet is refused, and the other two
read back. -/
theorem failed_writes_keep_the_recording_full :
    (fullRecording 1).wrote = [.ok true, .error (ioError 0 "write"), .ok true] ∧
      (Lvx2Reader.open {} (fileOf (fullRecording 1)) "full.lvx2").1 = .ok () ∧
      ∃ packets, packets.map (fun p => p.timestampNs) = [0, 100000000] ∧
        (Lvx2Reader.open {} (fileOf (fullRecording 1)) "full.lvx2").2.Yields packets false := by
  have hwell : ∀ p ∈ threeWrites, p.2.WellFormed := by
    intro p mem
    simp only [threeWrites, List.mem_cons, List.not_mem_nil, or_false] at mem
    obtain rfl | rfl | rfl := mem <;> exact isParsed_onePointView.wellFormed
  have hwhole : ((Lvx2Writer.new (fullDisk 1)).open "full.lvx2" [{}] 50).2.WholeFlushes
      threeWrites := by
    refine ⟨fun hcuts => ?_, fun _ => .inl ?_, fun _ => .inr ⟨?_, ?_⟩, trivial⟩
    · exact absurd hcuts (by decide +kernel)
    · decide +kernel
    · decide +kernel
    · decide +kernel
  have hopened : (record (fullDisk 1) "full.lvx2" [{}] 50 threeWrites).opened = .ok () := by
    decide +kernel
  have hclosed : (record (fullDisk 1) "full.lvx2" [{}] 50 threeWrites).closed = .ok () := by
    decide +kernel
  have hfile : fileOf (fullRecording 1) "full.lvx2" = .ok
      { rest := (record (fullDisk 1) "full.lvx2" [{}] 50 threeWrites).writer.disk.bytes } := by
    rw [fileOf, fullRecording]
  obtain ⟨hopens, packets, hpackets, hyields⟩ :=
    failed_writes_keep_the_recording hwell hopened hwhole hclosed hfile {}
  refine ⟨by decide +kernel, hopens, packets, ?_, hyields⟩
  have htimes : ((taken threeWrites (fullRecording 1).wrote).filterMap (packageOf [{}])).map
      Lvx2Package.timestampNs = [0, 100000000] := by
    decide +kernel
  rw [← htimes, fullRecording, ← hpackets, List.map_map]
  rfl

/-- **A torn frame corrupts the recording.**  There is room for the frame header but not for
the body behind it.  The second packet is refused, the third one is taken and writes the
header again; `close` succeeds, and the reader refuses the first package. -/
theorem torn_frame_corrupts :
    (fullRecording 2).opened = .ok () ∧
      (fullRecording 2).wrote = [.ok true, .error (ioError 0 "write"), .ok true] ∧
      (fullRecording 2).closed = .ok () ∧
      (Lvx2Reader.open {} (fileOf (fullRecording 2)) "full.lvx2").1 = .ok () ∧
      (Lvx2Reader.open {} (fileOf (fullRecording 2)) "full.lvx2").2.nextPacket.1 =
        .error (.error (unsupportedDataType "package data_type 0 in frame 0")) := by
  refine ⟨by decide +kernel, by decide +kernel, by decide +kernel, by decide +kernel, ?_⟩
  decide +kernel

end LivoxMid360
