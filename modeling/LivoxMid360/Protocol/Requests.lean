import LivoxMid360.Protocol
import Mathlib.Algebra.Group.Action.Defs
import Mathlib.Algebra.Order.BigOperators.Group.List
import Mathlib.Tactic.Ring

/-!
# Requests survive the wire

`encode_param_config_request` and `encode_param_inquire_request` narrow a count,
and `append_key_value_list` narrows every value length, to sixteen bits without a
check; `encode_command_frame` does the same with the frame size.  What makes the
casts harmless is the size check of `encode_command_frame`, made last.

The encoders store at offsets of a preallocated buffer.  The first part collapses
those stores into concatenations (`encodeParamConfigRequest_eq`,
`encodeParamInquireRequest_eq`, `buildCommandFrame_eq`), where nothing is lost
yet because the casts are still there.  The second part reads the concatenations
back: `parseCommandFrame_commandWire` for a frame of admissible size with any
bytes behind it, `parseKeyValueList_kvListBytes` for a list of entries whose
lengths fit.  `requests_refused_or_read_back` carries the size bound from the one to
the other.
-/

namespace LivoxMid360

open LittleEndian Crc

/-! ## Payloads as concatenations -/

/-- The wire form of one entry. -/
def KeyValue.bytes (kv : KeyValue) : List UInt8 :=
  encodeLe kv.key ++ (encodeLe (UInt16.ofNat kv.value.length) ++ kv.value)

/-- The exact size of a list of entries on the wire. -/
def kvListSize (kvs : List KeyValue) : ℕ :=
  (kvs.map fun kv => 4 + kv.value.length).sum

@[simp] theorem KeyValue.bytes_length (kv : KeyValue) : kv.bytes.length = 4 + kv.value.length := by
  simp only [KeyValue.bytes, List.length_append, encodeLe_length, size_uint16]
  omega

theorem kvListBytes_length (kvs : List KeyValue) :
    (kvs.flatMap KeyValue.bytes).length = kvListSize kvs := by
  simp [List.length_flatMap, kvListSize]

theorem appendKeyValue_eq (out : List UInt8) (kv : KeyValue) :
    appendKeyValue out kv = out ++ kv.bytes := by
  have hnothing : 4 + kv.value.length - 2 - 2 - kv.value.length = 0 := by omega
  simp only [appendKeyValue]
  rw [writeLe_append rfl, writeLe_append (by simp), overwrite_append (by simp)]
  simp [KeyValue.bytes, hnothing]

theorem appendKeyValueList_eq (out : List UInt8) (kvs : List KeyValue) :
    appendKeyValueList out kvs = out ++ kvs.flatMap KeyValue.bytes := by
  induction kvs generalizing out with
  | nil => simp [appendKeyValueList]
  | cons kv kvs ih =>
    rw [appendKeyValueList, List.foldl_cons, ← appendKeyValueList, ih, appendKeyValue_eq]
    simp

/-- Storing a count and a reserved word into the first four bytes of a buffer. -/
theorem writeCount_eq (rest : List UInt8) (n : UInt16) :
    writeLe (writeLe (List.replicate 4 0 ++ rest) 0 n) 2 (0 : UInt16) =
      encodeLe n ++ (encodeLe (0 : UInt16) ++ rest) := by
  have hfirst : writeLe (List.replicate 4 0 ++ rest) 0 n =
      encodeLe n ++ (List.replicate 2 0 ++ rest) := by
    have := writeLe_append List.length_nil (List.replicate 4 0 ++ rest) n
    simpa [List.drop_append] using this
  rw [hfirst, writeLe_append (by simp)]
  simp

theorem encodeParamConfigRequest_eq (kvs : List KeyValue) :
    encodeParamConfigRequest kvs =
      encodeLe (UInt16.ofNat kvs.length) ++
        (encodeLe (0 : UInt16) ++ kvs.flatMap KeyValue.bytes) := by
  have hcount := writeCount_eq [] (UInt16.ofNat kvs.length)
  simp only [List.append_nil] at hcount
  rw [encodeParamConfigRequest, hcount, appendKeyValueList_eq, List.append_assoc]

/-- The loop of `encode_param_inquire_request` fills the zeroed tail in order. -/
theorem writeKeys_eq (pre : List UInt8) (i : ℕ) (keys : List UInt16)
    (hpre : pre.length = 4 + 2 * i) :
    writeKeys (pre ++ List.replicate (2 * keys.length) 0) i keys =
      pre ++ keys.flatMap encodeLe := by
  induction keys generalizing pre i with
  | nil => simp [writeKeys]
  | cons key keys ih =>
    have hzeros : (List.replicate (2 * (key :: keys).length) (0 : UInt8)).drop 2 =
        List.replicate (2 * keys.length) 0 := by
      simp [List.drop_replicate, Nat.mul_add]
    rw [writeKeys, writeLe_append hpre, size_uint16, hzeros, ih _ (i + 1) (by simp [hpre]; ring)]
    simp

theorem encodeParamInquireRequest_eq (keys : List UInt16) :
    encodeParamInquireRequest keys =
      encodeLe (UInt16.ofNat keys.length) ++ (encodeLe (0 : UInt16) ++ keys.flatMap encodeLe) := by
  have hbuffer : List.replicate (4 + 2 * keys.length) (0 : UInt8) =
      List.replicate 4 0 ++ List.replicate (2 * keys.length) 0 := List.replicate_add ..
  have hkeys := writeKeys_eq
    (encodeLe (UInt16.ofNat keys.length) ++ encodeLe (0 : UInt16)) 0 keys (by simp)
  rw [encodeParamInquireRequest, hbuffer, writeCount_eq, ← List.append_assoc, hkeys,
    List.append_assoc]

theorem encodeParamConfigRequest_length (kvs : List KeyValue) :
    (encodeParamConfigRequest kvs).length = 4 + kvListSize kvs := by
  simp only [encodeParamConfigRequest_eq, List.length_append, encodeLe_length, size_uint16,
    kvListBytes_length]
  omega

theorem encodeParamInquireRequest_length (keys : List UInt16) :
    (encodeParamInquireRequest keys).length = 4 + 2 * keys.length := by
  simp only [encodeParamInquireRequest_eq, List.length_append, encodeLe_length, size_uint16,
    List.length_flatMap, List.map_const', List.sum_replicate, smul_eq_mul]
  omega

/-! ## Command frames as concatenations -/

variable (spec : CommandFrameSpec)

/-- The first eighteen bytes of a command frame. -/
def commandPreamble : List UInt8 :=
  encodeLe kCommandSof ++ (encodeLe kProtocolVersion ++
    (encodeLe (UInt16.ofNat (commandFrameSize spec.data.length)) ++ (encodeLe spec.seqNum ++
      (encodeLe spec.cmdId ++ (encodeLe spec.cmdType.raw ++ (encodeLe spec.senderType.raw ++
        List.replicate 6 0))))))

/-- A whole command frame. -/
def commandWire : List UInt8 :=
  commandPreamble spec ++ (encodeLe (crc16CcittFalse (commandPreamble spec)) ++
    (encodeLe (payloadCrc32 spec.data) ++ spec.data))

@[simp] theorem commandPreamble_length : (commandPreamble spec).length = 18 := by
  simp [commandPreamble]

theorem commandWire_length : (commandWire spec).length = commandFrameSize spec.data.length := by
  simp only [commandWire, List.length_append, commandPreamble_length, encodeLe_length,
    size_uint16, size_uint32, commandFrameSize, kCommandHeaderSize]
  omega

/-- The stores of `encode_command_frame` up to the header CRC. -/
theorem writePreamble_eq (out : List UInt8) (spec : CommandFrameSpec) :
    overwrite (writeLe (writeLe (writeLe (writeLe (writeLe (writeLe (writeLe out 0 kCommandSof) 1
      kProtocolVersion) 2 (UInt16.ofNat (commandFrameSize spec.data.length))) 4 spec.seqNum) 8
      spec.cmdId) 10 spec.cmdType.raw) 11 spec.senderType.raw) 12 (List.replicate 6 0) =
      commandPreamble spec ++ out.drop 18 := by
  have hstart : writeLe out 0 kCommandSof = encodeLe kCommandSof ++ out.drop 1 :=
    writeLe_append List.length_nil out kCommandSof
  rw [hstart, writeLe_append (by simp), writeLe_append (by simp), writeLe_append (by simp),
    writeLe_append (by simp), writeLe_append (by simp), writeLe_append (by simp),
    overwrite_append (by simp)]
  simp [commandPreamble, List.drop_drop]

/-- `encode_command_frame` writes the frame to the front of the buffer and leaves
the rest of the buffer as it was. -/
theorem encodeCommandFrame_eq {out : List UInt8} {spec : CommandFrameSpec}
    (hsize : spec.data.length ≤ kCommandDataMaxSize)
    (hfits : commandFrameSize spec.data.length ≤ out.length) :
    encodeCommandFrame out spec =
      .ok (commandFrameSize spec.data.length,
        commandWire spec ++ out.drop (commandFrameSize spec.data.length)) := by
  have hlen : 24 + spec.data.length ≤ out.length := hfits
  -- The payload is stored before the CRC-32 field in front of it.
  have hgap : (out.drop 18).drop 2 = (out.drop 20).take 4 ++ out.drop 24 := by
    calc (out.drop 18).drop 2 = out.drop 20 := List.drop_drop
      _ = (out.drop 20).take 4 ++ (out.drop 20).drop 4 := (List.take_append_drop 4 _).symm
      _ = (out.drop 20).take 4 ++ out.drop 24 := by rw [List.drop_drop]
  have hgapLength : ((out.drop 20).take 4).length = 4 := by
    simp only [List.length_take, List.length_drop]
    omega
  rw [encodeCommandFrame, if_neg hsize.not_gt]
  dsimp only
  rw [if_neg hfits.not_gt, writePreamble_eq, List.take_left' (commandPreamble_length spec),
    writeLe_append (commandPreamble_length spec), size_uint16, hgap, ← List.append_assoc,
    overwrite_append (by simp [hgapLength, kCommandHeaderSize]), List.drop_drop,
    List.append_assoc, List.append_assoc,
    writeLe_append (by simp), size_uint32, List.drop_left' hgapLength]
  simp [commandWire, commandFrameSize, kCommandHeaderSize]

theorem buildCommandFrame_eq :
    buildCommandFrame spec =
      if spec.data.length ≤ kCommandDataMaxSize then .ok (commandWire spec)
      else .error .kDataTooLarge := by
  by_cases hsize : spec.data.length ≤ kCommandDataMaxSize
  · rw [buildCommandFrame, encodeCommandFrame_eq hsize (by simp), if_pos hsize]
    simp
  · rw [buildCommandFrame, encodeCommandFrame, if_pos (not_le.mp hsize), if_neg hsize]

/-! ## Reading back -/

variable {n : ℕ}

theorem toNat_ofNat_commandFrameSize (h : n ≤ kCommandDataMaxSize) :
    (UInt16.ofNat (commandFrameSize n)).toNat = commandFrameSize n := by
  apply UInt16.toNat_ofNat_of_lt
  simp only [kCommandDataMaxSize, kCommandFrameMaxSize, kCommandHeaderSize] at h
  simp only [commandFrameSize, kCommandHeaderSize, UInt16.size]
  omega

/-- The header the parser reads from a frame. -/
def CommandFrameSpec.header : CommandHeader where
  length := UInt16.ofNat (commandFrameSize spec.data.length)
  seqNum := spec.seqNum
  cmdId := spec.cmdId
  cmdType := spec.cmdType
  senderType := spec.senderType
  resv := List.replicate 6 0
  crc16 := crc16CcittFalse (commandPreamble spec)
  crc32 := payloadCrc32 spec.data

theorem readCommandHeader_commandWire (trailing : List UInt8) :
    readCommandHeader (commandWire spec ++ trailing) = spec.header := by
  have hfields : ∀ (crc16 : UInt16) (crc32 : UInt32) (rest : List UInt8),
      readCommandHeader (commandPreamble spec ++ (encodeLe crc16 ++ (encodeLe crc32 ++ rest))) =
        { spec.header with crc16 := crc16, crc32 := crc32 } := by
    intro crc16 crc32 rest
    have hresv : slice (List.replicate 6 0 ++ (encodeLe crc16 ++ (encodeLe crc32 ++ rest))) 0 6 =
        List.replicate 6 0 := slice_append_zero (by simp)
    simp only [readCommandHeader, CommandFrameSpec.header, commandPreamble, List.append_assoc]
    simp [readLe_append_of_le, readLe_append_zero, slice_append_of_le, - List.reduceReplicate,
      hresv]
  simp only [commandWire, List.append_assoc]
  exact hfields ..

/-- A frame of admissible size is accepted, whatever follows it in the buffer. -/
theorem parseCommandFrame_commandWire {spec : CommandFrameSpec} (trailing : List UInt8)
    (hsize : spec.data.length ≤ kCommandDataMaxSize) :
    parseCommandFrame (commandWire spec ++ trailing) = .ok ⟨spec.header, spec.data⟩ := by
  have hheader := readCommandHeader_commandWire spec trailing
  have hlength : spec.header.length.toNat = 24 + spec.data.length :=
    toNat_ofNat_commandFrameSize hsize
  have htotal :
      (commandWire spec ++ trailing).length = 24 + spec.data.length + trailing.length := by
    rw [List.length_append, commandWire_length, commandFrameSize, kCommandHeaderSize]
  apply parseCommandFrame_eq_ok_iff.mpr
  exact {
    header_fits := by rw [htotal, kCommandHeaderSize]; omega
    sof := by simp [commandWire, commandPreamble, readLe_append_zero]
    version := by simp [commandWire, commandPreamble, readLe_append_of_le, readLe_append_zero]
    header_eq := hheader.symm
    length_ge := by simp only [hlength, kCommandHeaderSize]; omega
    length_le := by
      simp only [kCommandDataMaxSize, kCommandFrameMaxSize, kCommandHeaderSize] at hsize
      simp only [hlength, kCommandFrameMaxSize]
      omega
    length_fits := by simp only [hlength, htotal]; omega
    crc16 := by
      rw [commandWire, List.append_assoc, List.take_left' (commandPreamble_length spec)]
      rfl
    data_eq := by
      have hassoc : commandWire spec ++ trailing = (commandPreamble spec ++
          (encodeLe (crc16CcittFalse (commandPreamble spec)) ++
            encodeLe (payloadCrc32 spec.data))) ++ (spec.data ++ trailing) := by
        simp [commandWire]
      rw [hassoc, slice_append (by simp [kCommandHeaderSize])]
      simp [hlength, kCommandHeaderSize]
    crc32 := rfl }

/-- One turn of the parser loop over an entry whose length fits. -/
theorem parseKeyValueLoop_bytes {pre post : List UInt8} {kv : KeyValue} {out : List KeyValue}
    (hlen : kv.value.length < 2 ^ 16) :
    parseKeyValueLoop (pre ++ (kv.bytes ++ post)) (n + 1) pre.length out =
      parseKeyValueLoop (pre ++ (kv.bytes ++ post)) n (pre ++ kv.bytes).length (out ++ [kv]) := by
  have hkey : readLe UInt16 (pre ++ (kv.bytes ++ post)) pre.length = kv.key := by
    rw [KeyValue.bytes, List.append_assoc, readLe_append rfl]
  have hvalueLength : (readLe UInt16 (pre ++ (kv.bytes ++ post)) (pre.length + 2)).toNat =
      kv.value.length := by
    have hassoc : pre ++ (kv.bytes ++ post) = (pre ++ encodeLe kv.key) ++
        (encodeLe (UInt16.ofNat kv.value.length) ++ (kv.value ++ post)) := by
      simp [KeyValue.bytes]
    rw [hassoc, readLe_append (by simp)]
    exact UInt16.toNat_ofNat_of_lt hlen
  have hvalue : slice (pre ++ (kv.bytes ++ post)) (pre.length + 4) kv.value.length = kv.value := by
    have hassoc : pre ++ (kv.bytes ++ post) = (pre ++ (encodeLe kv.key ++
        encodeLe (UInt16.ofNat kv.value.length))) ++ (kv.value ++ post) := by
      simp [KeyValue.bytes]
    rw [hassoc, slice_append (by simp)]
    simp
  have htotal : (pre ++ (kv.bytes ++ post)).length =
      pre.length + (4 + kv.value.length) + post.length := by
    simp only [List.length_append, KeyValue.bytes_length]
    omega
  have hnext : (pre ++ kv.bytes).length = pre.length + 4 + kv.value.length := by
    simp only [List.length_append, KeyValue.bytes_length]
    omega
  rw [parseKeyValueLoop, if_neg (by omega)]
  dsimp only
  rw [hkey, hvalueLength, hvalue, if_neg (by omega), hnext]

theorem parseKeyValueLoop_kvListBytes (pre : List UInt8) (kvs out : List KeyValue)
    (hlen : ∀ kv ∈ kvs, kv.value.length < 2 ^ 16) :
    parseKeyValueLoop (pre ++ kvs.flatMap KeyValue.bytes) kvs.length pre.length out =
      .ok (out ++ kvs) := by
  induction kvs generalizing pre out with
  | nil => simp [parseKeyValueLoop]
  | cons kv kvs ih =>
    rw [List.flatMap_cons, List.length_cons,
      parseKeyValueLoop_bytes (hlen kv List.mem_cons_self), ← List.append_assoc,
      ih _ _ fun kv' mem => hlen kv' (List.mem_cons_of_mem kv mem)]
    simp

variable {kvs : List KeyValue}

theorem parseKeyValueList_kvListBytes (hcount : kvs.length < 2 ^ 16)
    (hlen : ∀ kv ∈ kvs, kv.value.length < 2 ^ 16) :
    parseKeyValueList (kvs.flatMap KeyValue.bytes) kvs.length = some (.ok kvs) := by
  rw [parseKeyValueList_eq (by rw [kKeyValueVectorMaxSize]; omega)]
  exact congrArg some (parseKeyValueLoop_kvListBytes [] kvs [] hlen)

/-- The keys an inquire request carries, read with the count in its first
word. -/
def readKeys (data : List UInt8) : List UInt16 :=
  (List.range (readLe UInt16 data 0).toNat).map fun i => readLe UInt16 data (4 + 2 * i)

theorem readLe_flatMap_encodeLe (pre : List UInt8) (keys : List UInt16) {i : ℕ}
    (hi : i < keys.length) :
    readLe UInt16 (pre ++ keys.flatMap encodeLe) (pre.length + 2 * i) = keys[i] := by
  have hword : slice (keys.flatMap encodeLe) (i * 2) 2 = encodeLe keys[i] :=
    slice_flatMap encodeLe_length hi
  rw [readLe_append_of_le (Nat.le_add_right ..), Nat.add_sub_cancel_left, Nat.mul_comm, readLe,
    size_uint16, hword, decodeLe_encodeLe]

/-- The first word of a payload that starts with a count. -/
theorem readLe_count (hn : n < 2 ^ 16) (rest : List UInt8) :
    (readLe UInt16 (encodeLe (UInt16.ofNat n) ++ rest) 0).toNat = n := by
  rw [readLe_append_zero]
  exact UInt16.toNat_ofNat_of_lt hn

theorem readKeys_encodeParamInquireRequest {keys : List UInt16} (hlen : keys.length < 2 ^ 16) :
    readKeys (encodeParamInquireRequest keys) = keys := by
  rw [readKeys, encodeParamInquireRequest_eq, readLe_count hlen]
  apply List.ext_getElem
  · simp
  · intro i _ hi
    rw [List.getElem_map, List.getElem_range, ← List.append_assoc]
    exact readLe_flatMap_encodeLe _ keys hi

/-- The two parts of a payload that a count and a reserved word precede. -/
theorem encodeParamConfigRequest_parts (hcount : kvs.length < 2 ^ 16) :
    (readLe UInt16 (encodeParamConfigRequest kvs) 0).toNat = kvs.length ∧
      (encodeParamConfigRequest kvs).drop 4 = kvs.flatMap KeyValue.bytes := by
  constructor
  · rw [encodeParamConfigRequest_eq, readLe_count hcount]
  · rw [encodeParamConfigRequest_eq, ← List.append_assoc, List.drop_left' (by simp)]

/-- A state push has the layout of a configuration request. -/
theorem parseInfoPush_encodeParamConfigRequest (hcount : kvs.length < 2 ^ 16)
    (hvalues : ∀ kv ∈ kvs, kv.value.length < 2 ^ 16) :
    parseInfoPush (encodeParamConfigRequest kvs) = some (.ok kvs) := by
  obtain ⟨hfirst, hdrop⟩ := encodeParamConfigRequest_parts hcount
  have hlength : ¬(encodeParamConfigRequest kvs).length < 4 := by
    simp only [encodeParamConfigRequest_eq, List.length_append, encodeLe_length, size_uint16]
    omega
  rw [parseInfoPush, if_neg hlength, hdrop, hfirst, parseKeyValueList_kvListBytes hcount hvalues]

/-! ## Size bounds -/

theorem four_mul_length_le_kvListSize (kvs : List KeyValue) : 4 * kvs.length ≤ kvListSize kvs := by
  induction kvs with
  | nil => simp [kvListSize]
  | cons =>
    simp only [kvListSize, List.map_cons, List.sum_cons, List.length_cons] at *
    omega

theorem value_length_le_kvListSize {kv : KeyValue} (mem : kv ∈ kvs) :
    kv.value.length ≤ kvListSize kvs := by
  have hle : 4 + kv.value.length ≤ kvListSize kvs :=
    List.le_sum_of_mem (List.mem_map.mpr ⟨kv, mem, rfl⟩)
  omega

/-! ## The round trip -/

/-- A payload of `size` bytes either is refused by `build_command_frame`, because
of its exact size, or is delivered: the frame, with any bytes behind it, parses to
the requested header fields, an untruncated length and a payload that satisfies
`reads`. -/
def RefusedOrDelivered (data : List UInt8) (size : ℕ) (reads : List UInt8 → Prop) : Prop :=
  ∀ (seqNum : UInt32) (cmdId : UInt16) (cmdType : CmdType) (senderType : SenderType),
    if kCommandDataMaxSize < size then
      buildCommandFrame ⟨seqNum, cmdId, cmdType, senderType, data⟩ = .error .kDataTooLarge
    else
      ∃ frame, buildCommandFrame ⟨seqNum, cmdId, cmdType, senderType, data⟩ = .ok frame ∧
        ∀ trailing, ∃ v, parseCommandFrame (frame ++ trailing) = .ok v ∧
          v.header.length.toNat = frame.length ∧ v.header.seqNum = seqNum ∧
          v.header.cmdId = cmdId ∧ v.header.cmdType = cmdType ∧
          v.header.senderType = senderType ∧ reads v.data

theorem refusedOrDelivered {data : List UInt8} {size : ℕ} {reads : List UInt8 → Prop}
    (hlength : data.length = size) (hreads : data.length ≤ kCommandDataMaxSize → reads data) :
    RefusedOrDelivered data size reads := by
  subst hlength
  intro seqNum cmdId cmdType senderType
  rw [buildCommandFrame_eq]
  by_cases hsize : data.length ≤ kCommandDataMaxSize
  · rw [if_neg hsize.not_gt, if_pos hsize]
    refine ⟨_, rfl, fun trailing => ⟨_, parseCommandFrame_commandWire trailing hsize, ?_⟩⟩
    refine ⟨?_, rfl, rfl, rfl, rfl, hreads hsize⟩
    rw [commandWire_length]
    exact toNat_ofNat_commandFrameSize hsize
  · rw [if_pos (not_le.mp hsize), if_neg hsize]

theorem configRequest_reads (hsize : (encodeParamConfigRequest kvs).length ≤ kCommandDataMaxSize) :
    (readLe UInt16 (encodeParamConfigRequest kvs) 0).toNat = kvs.length ∧
      parseKeyValueList ((encodeParamConfigRequest kvs).drop 4)
        (readLe UInt16 (encodeParamConfigRequest kvs) 0).toNat = some (.ok kvs) := by
  rw [encodeParamConfigRequest_length, kCommandDataMaxSize, kCommandFrameMaxSize,
    kCommandHeaderSize] at hsize
  have hcount : kvs.length < 2 ^ 16 := by
    have := four_mul_length_le_kvListSize kvs
    omega
  have hlen : ∀ kv ∈ kvs, kv.value.length < 2 ^ 16 := by
    intro kv mem
    have := value_length_le_kvListSize mem
    omega
  obtain ⟨hfirst, hdrop⟩ := encodeParamConfigRequest_parts hcount
  rw [hdrop, hfirst]
  exact ⟨rfl, parseKeyValueList_kvListBytes hcount hlen⟩

theorem inquireRequest_reads {keys : List UInt16}
    (hsize : (encodeParamInquireRequest keys).length ≤ kCommandDataMaxSize) :
    (encodeParamInquireRequest keys).length = 4 + 2 * keys.length ∧
      (readLe UInt16 (encodeParamInquireRequest keys) 0).toNat = keys.length ∧
      readKeys (encodeParamInquireRequest keys) = keys := by
  rw [encodeParamInquireRequest_length, kCommandDataMaxSize, kCommandFrameMaxSize,
    kCommandHeaderSize] at hsize
  have hkeys : keys.length < 2 ^ 16 := by omega
  refine ⟨encodeParamInquireRequest_length keys, ?_, readKeys_encodeParamInquireRequest hkeys⟩
  rw [encodeParamInquireRequest_eq, readLe_count hkeys]

/-- **A configuration or inquire request is never silently mangled.**  The exact
payload size alone decides whether the request is refused; when it is not, the
sixteen-bit count and lengths on the wire are the real ones, and the payload
reads back as exactly the entries, or keys, that were asked for. -/
theorem requests_refused_or_read_back :
    (∀ kvs : List KeyValue,
      RefusedOrDelivered (encodeParamConfigRequest kvs) (4 + kvListSize kvs) fun payload =>
        (readLe UInt16 payload 0).toNat = kvs.length ∧
          parseKeyValueList (payload.drop 4) (readLe UInt16 payload 0).toNat = some (.ok kvs)) ∧
    (∀ keys : List UInt16,
      RefusedOrDelivered (encodeParamInquireRequest keys) (4 + 2 * keys.length) fun payload =>
        payload.length = 4 + 2 * keys.length ∧
          (readLe UInt16 payload 0).toNat = keys.length ∧ readKeys payload = keys) := by
  constructor
  · intro kvs
    exact refusedOrDelivered (encodeParamConfigRequest_length kvs) configRequest_reads
  · intro keys
    exact refusedOrDelivered (encodeParamInquireRequest_length keys) inquireRequest_reads

end LivoxMid360
