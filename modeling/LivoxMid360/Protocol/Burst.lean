import LivoxMid360.Protocol
import Mathlib.Tactic.SplitIfs

/-!
# Burst protection of the wire formats

A transmission error that changes a few adjacent bytes of a checked region is
never accepted.  `AlteredWithin off n orig alt` is such an error: two buffers of
one length that differ, and only inside the window `[off, off + n)`.

* `AlteredWithin.readLe_eq` and `AlteredWithin.slice_eq`: everything read outside
  the window is unchanged.
* `AlteredWithin.slice`: a region that contains the window is altered in the same
  way.  With the burst lemmas of the two checksums this gives
  `AlteredWithin.crc16_ne` and `AlteredWithin.crc32_ne`.
* `crc_burst_rejected` puts these together for command frames and data packets.

The fields a parser tests before the checksum lie outside the payload, so an
altered payload reaches the CRC-32 test and the error is exactly `kBadCrc32`.
The first eighteen bytes of a command frame are different: they include the
length, so there the parser may stop at an earlier test.
-/

namespace LivoxMid360

open LittleEndian Crc

/-! ## Local alterations -/

/-- `alt` is `orig` with at least one byte changed, all changes inside the window
`[off, off + n)`. -/
structure AlteredWithin (off n : ℕ) (orig alt : List UInt8) : Prop where
  length_eq : alt.length = orig.length
  ne : alt ≠ orig
  outside : ∀ i, i < off ∨ off + n ≤ i → alt[i]? = orig[i]?

theorem getElem?_slice (bs : List UInt8) (off n i : ℕ) :
    (slice bs off n)[i]? = if i < n then bs[off + i]? else none := by
  rw [slice, List.getElem?_take, List.getElem?_drop]

namespace AlteredWithin

variable {off n : ℕ} {orig alt : List UInt8}

/-- Changing one byte inside the window is such an error. -/
theorem of_set {i : ℕ} {b : UInt8} (hlow : off ≤ i) (hhigh : i < off + n)
    (hne : orig.set i b ≠ orig) :
    AlteredWithin off n orig (orig.set i b) where
  length_eq := List.length_set
  ne := hne
  outside := by
    intro j hj
    rw [List.getElem?_set_ne (by omega)]

variable {p : ℕ}

variable (h : AlteredWithin off n orig alt)

include h

/-- A region disjoint from the window is unchanged. -/
theorem slice_eq {m : ℕ} (disjoint : p + m ≤ off ∨ off + n ≤ p) :
    slice alt p m = slice orig p m := by
  apply List.ext_getElem?
  intro i
  rw [getElem?_slice, getElem?_slice]
  split_ifs with hi
  · exact h.outside (p + i) (by omega)
  · rfl

theorem readLe_eq {α : Type} [LeWord α] (disjoint : p + LeWord.size α ≤ off ∨ off + n ≤ p) :
    readLe α alt p = readLe α orig p := by
  rw [readLe, readLe, h.slice_eq disjoint]

/-- A region that contains the window is altered within it. -/
theorem slice {m : ℕ} (hlow : p ≤ off) (hhigh : off + n ≤ p + m) :
    AlteredWithin (off - p) n (slice orig p m) (slice alt p m) where
  length_eq := by
    simp only [LittleEndian.slice, List.length_take, List.length_drop, h.length_eq]
  ne := by
    intro heq
    apply h.ne
    apply List.ext_getElem?
    intro i
    by_cases hi : i < off ∨ off + n ≤ i
    · exact h.outside i hi
    · have hat := congrArg (fun bs : List UInt8 => bs[i - p]?) heq
      simp only [getElem?_slice] at hat
      rw [if_pos (by omega), if_pos (by omega), Nat.add_sub_cancel' (by omega)] at hat
      exact hat
  outside := by
    intro i hi
    rw [getElem?_slice, getElem?_slice]
    split_ifs with him
    · exact h.outside (p + i) (by omega)
    · rfl

/-- The two buffers around the window. -/
theorem split (hfits : off + n ≤ orig.length) :
    ∃ pre x y post, orig = pre ++ (x ++ post) ∧ alt = pre ++ (y ++ post) ∧
      x.length = n ∧ y.length = n ∧ x ≠ y := by
  have decompose : ∀ bs : List UInt8,
      bs = bs.take off ++ (LittleEndian.slice bs off n ++ bs.drop (off + n)) := by
    intro bs
    rw [LittleEndian.slice, ← List.drop_drop, List.take_append_drop, List.take_append_drop]
  have hpre : alt.take off = orig.take off := by
    simpa [LittleEndian.slice] using h.slice_eq (p := 0) (m := off) (.inl (by omega))
  have hpost : alt.drop (off + n) = orig.drop (off + n) := by
    apply List.ext_getElem?
    intro i
    rw [List.getElem?_drop, List.getElem?_drop]
    exact h.outside _ (.inr (by omega))
  refine ⟨orig.take off, LittleEndian.slice orig off n, LittleEndian.slice alt off n,
    orig.drop (off + n), decompose orig, ?_, slice_length hfits,
    slice_length (h.length_eq ▸ hfits), ?_⟩
  · rw [← hpre, ← hpost]
    exact decompose alt
  · have hwindow := h.slice (p := off) (m := n) le_rfl le_rfl
    exact hwindow.ne.symm

theorem crc16_ne (hfits : off + n ≤ orig.length) (hwidth : n ≤ 2) :
    crc16CcittFalse alt ≠ crc16CcittFalse orig := by
  obtain ⟨pre, x, y, post, rfl, rfl, hx, hy, hne⟩ := h.split hfits
  exact (crc16CcittFalse_burst_ne pre x y post (hx.trans hy.symm) (hx ▸ hwidth) hne).symm

theorem crc32_ne (hfits : off + n ≤ orig.length) (hwidth : n ≤ 4) :
    Crc.crc32 alt ≠ Crc.crc32 orig := by
  obtain ⟨pre, x, y, post, rfl, rfl, hx, hy, hne⟩ := h.split hfits
  exact (crc32_burst_ne pre x y post (hx.trans hy.symm) (hx ▸ hwidth) hne).symm

/-- An altered payload is not empty, so its CRC-32 field is a checksum. -/
theorem payloadCrc32_ne (hfits : off + n ≤ orig.length) (hwidth : n ≤ 4) :
    payloadCrc32 alt ≠ payloadCrc32 orig := by
  obtain ⟨pre, x, y, post, horig, halt, hx, hy, hne⟩ := h.split hfits
  have nonempty : ∀ z : List UInt8, z.length = n → pre ++ (z ++ post) ≠ [] := by
    intro z hz hnil
    simp only [List.append_eq_nil_iff] at hnil
    obtain ⟨-, rfl, -⟩ := hnil
    obtain rfl : n = 0 := hz.symm
    exact hne ((List.length_eq_zero_iff.mp hx).trans (List.length_eq_zero_iff.mp hy).symm)
  rw [payloadCrc32, payloadCrc32, if_neg (halt ▸ nonempty y hy), if_neg (horig ▸ nonempty x hx)]
  exact h.crc32_ne hfits hwidth

end AlteredWithin

/-! ## The parsers -/

variable {frame alt : List UInt8} {off : ℕ}

/-- An error in the first eighteen bytes of a command frame is caught, by the
header CRC at the latest. -/
theorem parseCommandFrame_header_burst {v : CommandFrameView}
    (accepted : parseCommandFrame frame = .ok v) (hwindow : off + 2 ≤ 18)
    (altered : AlteredWithin off 2 frame alt) : ∃ e, parseCommandFrame alt = .error e := by
  have orig := parseCommandFrame_eq_ok_iff.mp accepted
  have hfits : 24 ≤ frame.length := orig.header_fits
  rcases parsed : parseCommandFrame alt with e | w
  · exact ⟨e, rfl⟩
  · exfalso
    have again := parseCommandFrame_eq_ok_iff.mp parsed
    have hfield : w.header.crc16 = v.header.crc16 := by
      rw [again.header_eq, orig.header_eq]
      exact altered.readLe_eq (.inr hwindow)
    have hregion : AlteredWithin (off - 0) 2 (slice frame 0 18) (slice alt 0 18) :=
      altered.slice (Nat.zero_le off) (by omega)
    have hlength : (slice frame 0 18).length = 18 := slice_length (by omega)
    apply hregion.crc16_ne (by omega) le_rfl
    calc crc16CcittFalse (slice alt 0 18) = w.header.crc16 := again.crc16
      _ = v.header.crc16 := hfield
      _ = crc16CcittFalse (slice frame 0 18) := orig.crc16.symm

variable {n : ℕ}

/-- The header of a command frame is read from its first 24 bytes. -/
theorem AlteredWithin.readCommandHeader_eq (h : AlteredWithin off n frame alt)
    (hlow : kCommandHeaderSize ≤ off) : readCommandHeader alt = readCommandHeader frame := by
  have hoff : 24 ≤ off := hlow
  have hword : ∀ (α : Type) [LeWord α] (p : ℕ), p + LeWord.size α ≤ 24 →
      readLe α alt p = readLe α frame p := fun α _ p hp => h.readLe_eq (.inl (by omega))
  have hresv : LittleEndian.slice alt 12 6 = LittleEndian.slice frame 12 6 :=
    h.slice_eq (.inl (by omega))
  simp [readCommandHeader, hword, hresv]

/-- An error in the payload of a command frame leaves every header test alone
and fails the payload CRC. -/
theorem parseCommandFrame_payload_burst {v : CommandFrameView}
    (accepted : parseCommandFrame frame = .ok v) (hwidth : n ≤ 4) (hlow : kCommandHeaderSize ≤ off)
    (hhigh : off + n ≤ v.header.length.toNat) (altered : AlteredWithin off n frame alt) :
    parseCommandFrame alt = .error .kBadCrc32 := by
  have orig := parseCommandFrame_eq_ok_iff.mp accepted
  have hge := orig.length_ge
  have hle := orig.length_le
  have hfits := orig.length_fits
  have hoff : 24 ≤ off := hlow
  have hheader : readCommandHeader alt = v.header :=
    (altered.readCommandHeader_eq hlow).trans orig.header_eq.symm
  have hsof : readLe UInt8 alt 0 = kCommandSof :=
    (altered.readLe_eq (.inl (by simp; omega))).trans orig.sof
  have hversion : readLe UInt8 alt 1 = kProtocolVersion :=
    (altered.readLe_eq (.inl (by simp; omega))).trans orig.version
  have hcrc16 : crc16CcittFalse (alt.take 18) = v.header.crc16 := by
    have htake : slice alt 0 18 = slice frame 0 18 := altered.slice_eq (.inl (by omega))
    exact (congrArg crc16CcittFalse htake).trans orig.crc16
  have hcrc32 : payloadCrc32 (slice alt kCommandHeaderSize
      (v.header.length.toNat - kCommandHeaderSize)) ≠ v.header.crc32 := by
    rw [← orig.crc32, orig.data_eq]
    have hregion := altered.slice (p := kCommandHeaderSize)
      (m := v.header.length.toNat - kCommandHeaderSize) hlow (by omega)
    exact hregion.payloadCrc32_ne (by rw [slice_length (by omega)]; omega) hwidth
  rw [parseCommandFrame, if_neg (by rw [altered.length_eq]; exact orig.header_fits.not_gt),
    if_neg (not_not.mpr hsof), if_neg (not_not.mpr hversion), hheader]
  dsimp only
  rw [if_neg (by rw [altered.length_eq]; omega), if_neg (not_not.mpr hcrc16), if_pos hcrc32]

/-- An error in the timestamp or the samples of a checked data packet leaves the
other fields alone and fails the packet CRC. -/
theorem parseDataPacket_burst {packet : List UInt8} {v : DataPacketView}
    (accepted : parseDataPacket packet true = .ok v) (hchecked : v.header.crc32 ≠ 0)
    (hwidth : n ≤ 4) (hlow : 28 ≤ off) (hhigh : off + n ≤ v.header.length.toNat)
    (altered : AlteredWithin off n packet alt) : parseDataPacket alt true = .error .kBadCrc32 := by
  have orig := parseDataPacket_eq_ok_iff.mp accepted
  have hge := orig.length_ge
  have hfits := orig.length_fits
  have hword : ∀ (α : Type) [LeWord α] (p : ℕ), p + LeWord.size α ≤ 28 →
      readLe α alt p = readLe α packet p := fun α _ p hp => altered.readLe_eq (.inl (by omega))
  -- The timestamp is the one header field inside the checked region.
  have hheader : readDataPacketHeader alt =
      { v.header with timestampNs := readLe UInt64 alt 28 } := by
    have hreserved : slice alt 12 12 = slice packet 12 12 := altered.slice_eq (.inl (by omega))
    rw [orig.header_eq]
    simp [readDataPacketHeader, hword, hreserved]
  have hsize : (slice alt kDataPacketHeaderSize
      (v.header.length.toNat - kDataPacketHeaderSize)).length = v.data.length := by
    rw [orig.data_eq, slice_length (by rw [altered.length_eq]; omega), slice_length (by omega)]
  have hdata : v.data.length = v.header.length.toNat - kDataPacketHeaderSize := by
    rw [orig.data_eq, slice_length (by omega)]
  have hcrc : Crc.crc32 (slice alt 28 (8 + v.data.length)) ≠ v.header.crc32 := by
    rw [← orig.crc32 rfl hchecked]
    simp only [kDataPacketHeaderSize] at hge hdata
    have hregion := altered.slice (p := 28) (m := 8 + v.data.length) hlow (by omega)
    exact hregion.crc32_ne (by rw [slice_length (by omega)]; omega) hwidth
  rw [parseDataPacket, if_neg (by rw [altered.length_eq]; exact orig.header_fits.not_gt), hheader]
  dsimp only
  rw [if_neg (not_not.mpr orig.version), if_neg (by rw [altered.length_eq]; omega),
    hword UInt8 10 (by simp), if_neg (UInt8.not_lt.mpr orig.type_known), hsize,
    if_neg (not_not.mpr orig.dot_num), if_pos ⟨rfl, hchecked, hcrc⟩]

/-- **Burst protection of the wire formats.**  An accepted command frame altered
within two adjacent bytes of its first eighteen is rejected; altered within four
adjacent payload bytes it is rejected with `kBadCrc32`, and so is an accepted
data packet with a non-zero CRC field altered within four adjacent bytes of its
timestamp and samples.  Narrower windows, as in a payload of three bytes, are
included. -/
theorem crc_burst_rejected :
    (∀ (frame : List UInt8) (v : CommandFrameView), parseCommandFrame frame = .ok v →
      (∀ (off : ℕ) (alt : List UInt8), off + 2 ≤ 18 → AlteredWithin off 2 frame alt →
        ∃ e, parseCommandFrame alt = .error e) ∧
      (∀ (off n : ℕ) (alt : List UInt8), n ≤ 4 → kCommandHeaderSize ≤ off →
        off + n ≤ v.header.length.toNat → AlteredWithin off n frame alt →
        parseCommandFrame alt = .error .kBadCrc32)) ∧
    (∀ (packet : List UInt8) (v : DataPacketView), parseDataPacket packet true = .ok v →
      v.header.crc32 ≠ 0 →
      ∀ (off n : ℕ) (alt : List UInt8), n ≤ 4 → 28 ≤ off → off + n ≤ v.header.length.toNat →
        AlteredWithin off n packet alt → parseDataPacket alt true = .error .kBadCrc32) := by
  refine ⟨fun frame v accepted => ⟨?_, ?_⟩, ?_⟩
  · intro off alt hwindow altered
    exact parseCommandFrame_header_burst accepted hwindow altered
  · intro off n alt hwidth hlow hhigh altered
    exact parseCommandFrame_payload_burst accepted hwidth hlow hhigh altered
  · intro packet v accepted hchecked off n alt hwidth hlow hhigh altered
    exact parseDataPacket_burst accepted hchecked hwidth hlow hhigh altered

/-- A reboot request with one bit flipped in `cmd_id` or in the payload, and a
one-point packet with one bit flipped in its timestamp. -/
theorem crc_burst_rejected_bit_flips :
    let frame : List UInt8 := [170, 0, 26, 0, 1, 0, 0, 0, 0, 2, 0, 0, 0, 0, 0, 0, 0, 0, 167, 153,
      92, 188, 72, 64, 100, 0]
    let packet : List UInt8 := [0, 44, 0, 0, 0, 1, 0, 0, 0, 0, 2, 0, 0, 0, 0, 0, 0, 0, 0, 0, 0, 0,
      0, 0, 226, 236, 7, 36, 0, 0, 0, 0, 0, 0, 0, 1, 2, 0, 3, 0, 4, 0, 5, 6]
    (∃ e, parseCommandFrame (frame.set 9 3) = .error e) ∧
      parseCommandFrame (frame.set 24 101) = .error .kBadCrc32 ∧
      parseDataPacket (packet.set 28 1) true = .error .kBadCrc32 := by
  intro frame packet
  have frameOk : parseCommandFrame frame = .ok ⟨readCommandHeader frame, [100, 0]⟩ := by
    decide +kernel
  have packetOk : parseDataPacket packet true =
      .ok ⟨readDataPacketHeader packet, [2, 0, 3, 0, 4, 0, 5, 6]⟩ := by
    decide +kernel
  have frames := crc_burst_rejected.1 frame _ frameOk
  refine ⟨frames.1 8 _ (by decide) (.of_set (by decide) (by decide) (by decide)),
    frames.2 24 2 _ (by decide) (by decide) (by decide +kernel)
      (.of_set (by decide) (by decide) (by decide)),
    crc_burst_rejected.2 packet _ packetOk (by decide +kernel) 28 4 _ (by decide) (by decide)
      (by decide +kernel) (.of_set (by decide) (by decide) (by decide))⟩

end LivoxMid360
