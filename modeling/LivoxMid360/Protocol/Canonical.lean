import LivoxMid360.Protocol.Requests

/-!
# Accepted wire data is canonical

`Requests` reads back what the encoders write.  Here it is the other way round: what the
parsers accept is what the encoders write.

`parse_key_value_list` accepts a byte string for exactly one list, the one that
`append_key_value_list` turns into it (`parseKeyValueList_eq_ok_iff`).  The length field of
an entry has sixteen bits, so the entries are those whose length the encoder does not
narrow.  `parse_command_frame` leaves the six reserved bytes alone; with them zero, its
fields determine the frame (`eq_commandWire_append`), both CRCs included, since they were
compared with what `build_command_frame` stores.

`parseKeyValueTraced` is the parser loop with a record of what it subtracts from the size
and of what it reads, and every record is within the input.
-/

namespace LivoxMid360

open LittleEndian Crc

/-! ## Key-value lists -/

/-- A value of `std::vector<KeyValue>`. -/
structure KeyValueVector where
  entries : List KeyValue
  size_le : entries.length ≤ kKeyValueVectorMaxSize

/-- What the parser loop does with an offset of its input. -/
inductive Access where
  /-- `in.size() - off`. -/
  | remaining (off : ℕ)
  /-- `size` bytes from `off` on are read, or become part of the result. -/
  | read (off size : ℕ)

/-- The subtraction does not underflow; the bytes are there. -/
def Access.InBounds (input : List UInt8) : Access → Prop
  | .remaining off => off ≤ input.length
  | .read off size => off + size ≤ input.length

/-- The loop of `parse_key_value_list` with the accesses it makes, in order. -/
def parseKeyValueTraced (input : List UInt8) :
    ℕ → ℕ → List KeyValue → List Access × Except ParseError (List KeyValue)
  | 0, off, out => ([], if off ≠ input.length then .error .kKeyNumMismatch else .ok out)
  | n + 1, off, out =>
    if input.length - off < 4 then ([.remaining off], .error .kTruncated)
    else
      let key := readLe UInt16 input off
      let len := readLe UInt16 input (off + 2)
      let header := [.remaining off, .read off 2, .read (off + 2) 2, .remaining (off + 4)]
      let off := off + 4
      if input.length - off < len.toNat then (header, .error .kTruncated)
      else
        let (accesses, r) := parseKeyValueTraced input n (off + len.toNat)
          (out ++ [⟨key, slice input off len.toNat⟩])
        (header ++ .read off len.toNat :: accesses, r)

/-- The record changes nothing. -/
theorem parseKeyValueTraced_snd (input : List UInt8) (n off : ℕ) (out : List KeyValue) :
    (parseKeyValueTraced input n off out).2 = parseKeyValueLoop input n off out := by
  induction n generalizing off out with
  | zero => rfl
  | succ n ih =>
    rw [parseKeyValueTraced, parseKeyValueLoop]
    split_ifs
    · rfl
    · dsimp only
      split_ifs
      · rfl
      · exact ih ..

variable {input : List UInt8}

/-- **The loop stays inside its input.** -/
theorem parseKeyValueTraced_inBounds (n : ℕ) {off : ℕ} (out : List KeyValue)
    (hoff : off ≤ input.length) :
    ∀ a ∈ (parseKeyValueTraced input n off out).1, a.InBounds input := by
  induction n generalizing off out with
  | zero => simp [parseKeyValueTraced]
  | succ n ih =>
    rw [parseKeyValueTraced]
    split_ifs with hheader
    · simpa [Access.InBounds] using hoff
    · have hentry : ∀ a ∈ [Access.remaining off, .read off 2, .read (off + 2) 2,
          .remaining (off + 4)], a.InBounds input := by
        simp only [List.forall_mem_cons, Access.InBounds]
        simp
        omega
      dsimp only
      split_ifs with hvalue
      · exact hentry
      · have hnext : off + 4 + (readLe UInt16 input (off + 2)).toNat ≤ input.length := by omega
        refine List.forall_mem_append.mpr ⟨hentry, List.forall_mem_cons.mpr ⟨hnext, ?_⟩⟩
        exact ih _ hnext

/-- The bytes from an offset on that the loop has accepted. -/
theorem drop_eq_of_parseKeyValueLoop {n off : ℕ} {out kvs : List KeyValue}
    (hoff : off ≤ input.length) (h : parseKeyValueLoop input n off out = .ok kvs) :
    ∃ entries, kvs = out ++ entries ∧ entries.length = n ∧
      (∀ kv ∈ entries, kv.value.length < 2 ^ 16) ∧
      input.drop off = entries.flatMap KeyValue.bytes := by
  induction n generalizing off out with
  | zero =>
    rw [parseKeyValueLoop] at h
    split_ifs at h with hend
    cases h
    refine ⟨[], by simp, rfl, by simp, ?_⟩
    exact List.drop_eq_nil_of_le (not_not.mp hend).ge
  | succ n ih =>
    rw [parseKeyValueLoop] at h
    split_ifs at h with hheader
    dsimp only at h
    split_ifs at h with hvalue
    set len := readLe UInt16 input (off + 2) with hlen
    obtain ⟨entries, rfl, hcount, hlengths, hrest⟩ := ih (by omega) h
    have hslice : (slice input (off + 4) len.toNat).length = len.toNat :=
      slice_length (by omega)
    refine ⟨⟨readLe UInt16 input off, slice input (off + 4) len.toNat⟩ :: entries, by simp,
      by simp [hcount], ?_, ?_⟩
    · rw [List.forall_mem_cons]
      refine ⟨?_, hlengths⟩
      rw [hslice]
      exact len.toNat_lt
    · have hkey : input.drop off = encodeLe (readLe UInt16 input off) ++ input.drop (off + 2) :=
        drop_eq_encodeLe_append (by rw [size_uint16]; omega)
      have hsize : input.drop (off + 2) = encodeLe len ++ input.drop (off + 4) :=
        drop_eq_encodeLe_append (by rw [size_uint16]; omega)
      rw [List.flatMap_cons, KeyValue.bytes, hslice, UInt16.ofNat_toNat, hkey, hsize,
        drop_eq_slice_append input (off + 4) len.toNat, hrest]
      simp

/-- **What `parse_key_value_list` accepts.** -/
theorem parseKeyValueList_eq_ok_iff {keyNum : ℕ} {kvs : List KeyValue} :
    parseKeyValueList input keyNum = some (.ok kvs) ↔
      keyNum ≤ kKeyValueVectorMaxSize ∧ kvs.length = keyNum ∧
        (∀ kv ∈ kvs, kv.value.length ≤ 65535) ∧ appendKeyValueList [] kvs = input := by
  rw [appendKeyValueList_eq, List.nil_append]
  constructor
  · intro h
    rw [parseKeyValueList] at h
    split_ifs at h with hcount
    obtain ⟨entries, rfl, hlength, hvalues, hbytes⟩ :=
      drop_eq_of_parseKeyValueLoop (Nat.zero_le _) (Option.some.inj h)
    refine ⟨not_lt.mp hcount, hlength, ?_, hbytes.symm⟩
    intro kv mem
    exact Nat.le_of_lt_succ (hvalues kv mem)
  · rintro ⟨hcount, rfl, hvalues, rfl⟩
    rw [parseKeyValueList_eq hcount]
    refine congrArg some (parseKeyValueLoop_kvListBytes [] kvs [] ?_)
    intro kv mem
    exact Nat.lt_succ_of_le (hvalues kv mem)

/-! ## Command frames -/

/-- The arguments of `build_command_frame` that a parsed frame stands for. -/
def CommandFrameView.spec (v : CommandFrameView) : CommandFrameSpec where
  seqNum := v.header.seqNum
  cmdId := v.header.cmdId
  cmdType := v.header.cmdType
  senderType := v.header.senderType
  data := v.data

section Frame

variable {frame : List UInt8} {v : CommandFrameView}

theorem CommandFrameAccepted.data_length (h : CommandFrameAccepted frame v) :
    commandFrameSize v.data.length = v.header.length.toNat := by
  have hge := h.length_ge
  have hfits := h.length_fits
  rw [h.data_eq, slice_length (by omega), commandFrameSize]
  omega

variable (h : CommandFrameAccepted frame v) (hresv : v.header.resv = List.replicate 6 0)

include h hresv

/-- An accepted frame up to its CRCs. -/
theorem CommandFrameAccepted.eq_preamble_append :
    frame = commandPreamble v.spec ++ frame.drop 18 := by
  have hfits : 24 ≤ frame.length := h.header_fits
  have hsof : frame = encodeLe kCommandSof ++ frame.drop 1 := by
    rw [← h.sof]
    exact @drop_eq_encodeLe_append UInt8 _ frame 0 (by rw [size_uint8]; omega)
  have hversion : frame.drop 1 = encodeLe kProtocolVersion ++ frame.drop 2 := by
    rw [← h.version]
    exact drop_eq_encodeLe_append (by rw [size_uint8]; omega)
  have hlength : frame.drop 2 =
      encodeLe (UInt16.ofNat (commandFrameSize v.data.length)) ++ frame.drop 4 := by
    rw [h.data_length, UInt16.ofNat_toNat, h.header_eq]
    exact drop_eq_encodeLe_append (by rw [size_uint16]; omega)
  have hseq : frame.drop 4 = encodeLe v.header.seqNum ++ frame.drop 8 := by
    rw [h.header_eq]
    exact drop_eq_encodeLe_append (by rw [size_uint32]; omega)
  have hid : frame.drop 8 = encodeLe v.header.cmdId ++ frame.drop 10 := by
    rw [h.header_eq]
    exact drop_eq_encodeLe_append (by rw [size_uint16]; omega)
  have htype : frame.drop 10 = encodeLe v.header.cmdType.raw ++ frame.drop 11 := by
    rw [h.header_eq]
    exact drop_eq_encodeLe_append (by rw [size_uint8]; omega)
  have hsender : frame.drop 11 = encodeLe v.header.senderType.raw ++ frame.drop 12 := by
    rw [h.header_eq]
    exact drop_eq_encodeLe_append (by rw [size_uint8]; omega)
  have hzeros : frame.drop 12 = List.replicate 6 0 ++ frame.drop 18 := by
    rw [← hresv, h.header_eq]
    exact drop_eq_slice_append frame 12 6
  calc frame = _ := hsof
    _ = _ := by rw [hversion, hlength, hseq, hid, htype, hsender, hzeros]
    _ = commandPreamble v.spec ++ frame.drop 18 := by
      simp only [commandPreamble, CommandFrameView.spec, List.append_assoc]

/-- An accepted frame whose reserved bytes are zero is the one its fields are encoded to,
with whatever follows it. -/
theorem CommandFrameAccepted.eq_commandWire_append :
    frame = commandWire v.spec ++ frame.drop v.header.length.toNat := by
  have hfits : 24 ≤ frame.length := h.header_fits
  have hpreamble := h.eq_preamble_append hresv
  have hcrc16 : frame.drop 18 =
      encodeLe (crc16CcittFalse (commandPreamble v.spec)) ++ frame.drop 20 := by
    have htake : frame.take 18 = commandPreamble v.spec := by
      rw [hpreamble]
      exact List.take_left' (commandPreamble_length v.spec)
    rw [← htake, h.crc16, h.header_eq]
    exact drop_eq_encodeLe_append (by rw [size_uint16]; omega)
  have hcrc32 : frame.drop 20 = encodeLe (payloadCrc32 v.data) ++ frame.drop 24 := by
    rw [h.crc32, h.header_eq]
    exact drop_eq_encodeLe_append (by rw [size_uint32]; omega)
  have hdata : frame.drop 24 = v.data ++ frame.drop v.header.length.toNat := by
    have hge : 24 ≤ v.header.length.toNat := h.length_ge
    rw [h.data_eq, kCommandHeaderSize]
    have hsplit := drop_eq_slice_append frame 24 (v.header.length.toNat - 24)
    rwa [Nat.add_sub_cancel' hge] at hsplit
  calc frame = _ := hpreamble
    _ = _ := by rw [hcrc16, hcrc32, hdata]
    _ = commandWire v.spec ++ frame.drop v.header.length.toNat := by
      simp only [commandWire, CommandFrameView.spec, List.append_assoc]

/-- **A frame is what its fields are built to.** -/
theorem CommandFrameAccepted.buildCommandFrame :
    LivoxMid360.buildCommandFrame v.spec = .ok (frame.take v.header.length.toNat) := by
  have hlength := h.data_length
  have hsize : v.data.length ≤ kCommandDataMaxSize := by
    have hle := h.length_le
    simp only [commandFrameSize, kCommandHeaderSize, kCommandFrameMaxSize] at hlength hle
    simp only [kCommandDataMaxSize, kCommandFrameMaxSize, kCommandHeaderSize]
    omega
  have htake : frame.take v.header.length.toNat = commandWire v.spec := by
    have hwire := h.eq_commandWire_append hresv
    rw [hwire]
    refine List.take_left' ?_
    rw [commandWire_length]
    exact hlength
  rw [buildCommandFrame_eq, htake]
  exact if_pos hsize

end Frame

/-- **Accepted wire data is canonical.**  A byte string parses to a list of entries exactly
when it is what the list is appended to an empty buffer as, with lengths of sixteen bits.
So a list has one accepted encoding, and the parser stays inside its input, without an
underflow.  A frame that is accepted with zero reserved bytes is what its fields are built
to. -/
theorem accepted_wire_canonical :
    (∀ (b : List UInt8) (n : ℕ) (kvs : KeyValueVector),
      parseKeyValueList b n = some (.ok kvs.entries) ↔
        kvs.entries.length = n ∧ (∀ kv ∈ kvs.entries, kv.value.length ≤ 65535) ∧
          appendKeyValueList [] kvs.entries = b) ∧
    (∀ (b b' : List UInt8) (n n' : ℕ) (kvs : List KeyValue),
      parseKeyValueList b n = some (.ok kvs) → parseKeyValueList b' n' = some (.ok kvs) →
        b = b' ∧ n = n') ∧
    (∀ (b : List UInt8) (n : ℕ),
      (n ≤ kKeyValueVectorMaxSize →
          parseKeyValueList b n = some (parseKeyValueTraced b n 0 []).2) ∧
        ∀ a ∈ (parseKeyValueTraced b n 0 []).1, a.InBounds b) ∧
    ∀ (b : List UInt8) (v : CommandFrameView), parseCommandFrame b = .ok v →
      v.header.resv = List.replicate 6 0 →
      buildCommandFrame v.spec = .ok (b.take v.header.length.toNat) := by
  refine ⟨?_, ?_, ?_, ?_⟩
  · intro b n kvs
    rw [parseKeyValueList_eq_ok_iff]
    refine and_iff_right_of_imp ?_
    rintro ⟨rfl, -⟩
    exact kvs.size_le
  · intro b b' n n' kvs h h'
    obtain ⟨-, hn, -, hb⟩ := parseKeyValueList_eq_ok_iff.mp h
    obtain ⟨-, hn', -, hb'⟩ := parseKeyValueList_eq_ok_iff.mp h'
    exact ⟨hb.symm.trans hb', hn.symm.trans hn'⟩
  · intro b n
    refine ⟨?_, parseKeyValueTraced_inBounds n [] (Nat.zero_le _)⟩
    intro hn
    rw [parseKeyValueList_eq hn, parseKeyValueTraced_snd]
  · intro b v h hresv
    exact (parseCommandFrame_eq_ok_iff.mp h).buildCommandFrame hresv

/-- An entry of one byte, and a frame with a byte behind it. -/
theorem accepted_wire_canonical_frame :
    parseKeyValueList [6, 128, 1, 0, 2] 1 = some (.ok [⟨0x8006, [2]⟩]) ∧
      parseCommandFrame (commandWire { cmdId := 0x0102, data := [1, 2] } ++ [3]) =
        .ok ⟨CommandFrameSpec.header { cmdId := 0x0102, data := [1, 2] }, [1, 2]⟩ ∧
      buildCommandFrame { cmdId := 0x0102, data := [1, 2] } =
        .ok ((commandWire { cmdId := 0x0102, data := [1, 2] } ++ [3]).take 26) := by
  have hparse : parseCommandFrame (commandWire { cmdId := 0x0102, data := [1, 2] } ++ [3]) =
      .ok ⟨CommandFrameSpec.header { cmdId := 0x0102, data := [1, 2] }, [1, 2]⟩ :=
    parseCommandFrame_commandWire [3] (by decide)
  refine ⟨?_, hparse, accepted_wire_canonical.2.2.2 _ _ hparse rfl⟩
  exact (accepted_wire_canonical.1 _ _ ⟨_, by decide⟩).mpr ⟨rfl, by decide, by decide⟩

end LivoxMid360
