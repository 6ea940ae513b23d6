import LivoxMid360.Protocol.Commands
import LivoxMid360.PythonPack

/-!
# The Python reference encoders

The encoders of `tools/livox_mid360_proto.py`, which the simulator answers with and the
golden vectors are made of.  They are written with `struct.pack` on unbounded integers, so a
number that does not fit its field raises, where a C++ encoder stores it modulo the width of
the field.

Both sides are compared through their wire form: `commandWire` for frames and
`KeyValue.bytes` for entries.

* `CommandFrame.encode_ofSpec`: a frame is encoded as `build_command_frame` builds it, and
  refused for the same payloads.
* `encoders_agree`: the frames and the payloads of all requests.  For a list of entries the
  two differ exactly where a count or a length has more than sixteen bits: Python raises,
  and C++ goes on to a payload that no frame takes.
-/

namespace LivoxMid360

open LittleEndian Crc

namespace Python

/-! ## Frames -/

/-- `CommandFrame.encode`. -/
def CommandFrame.encode (f : CommandFrame) : Except Exn (List UInt8) :=
  if f.data.length > CMD_FRAME_MAX - CMD_HEADER_SIZE then raise "data too large"
  else
    let length := CMD_HEADER_SIZE + f.data.length
    match pack [.B, .B, .H, .I, .H, .B, .B, .s 6]
      [.int SOF, .int 0, .int length, .int f.seqNum, .int f.cmdId, .int f.cmdType,
        .int f.senderType, .bytes f.resv] with
    | .error x => .error x
    | .ok head18 =>
      let c16 := crc16CcittFalse head18
      let c32 := if f.data = [] then 0 else crc32 f.data
      match pack [.H, .I] [.int c16, .int c32] with
      | .error x => .error x
      | .ok crcs => .ok (head18 ++ crcs ++ f.data)

/-- The frame a C++ caller describes. -/
def CommandFrame.ofSpec (spec : CommandFrameSpec) : CommandFrame where
  seqNum := spec.seqNum.toNat
  cmdId := spec.cmdId.toNat
  cmdType := spec.cmdType.raw.toNat
  senderType := spec.senderType.raw.toNat
  data := spec.data
  resv := List.replicate 6 0

theorem pack_nil : pack [] [] = .ok [] := rfl

theorem pack_I (w : UInt32) : Code.pack .I (.int w.toNat) = .ok (encodeLe w) :=
  packWord_toNat w

theorem pack_Q (w : UInt64) : Code.pack .Q (.int w.toNat) = .ok (encodeLe w) :=
  packWord_toNat w

/-- A number is packed if it has sixteen bits. -/
theorem pack_H_natCast (n : ℕ) :
    Code.pack .H (.int n) =
      if n < 0x10000 then .ok (encodeLe (UInt16.ofNat n)) else .error .structError := by
  split_ifs with hn
  · have h := pack_H (UInt16.ofNat n)
    rwa [UInt16.toNat_ofNat_of_lt' hn] at h
  · show packWord 2 n = _
    rw [packWord, if_neg]
    rw [Int.toNat_natCast]
    omega

/-- A byte string of the right length fills its field. -/
theorem pack_s {n : ℕ} {bs : List UInt8} (h : bs.length = n) :
    Code.pack (.s n) (.bytes bs) = .ok bs := by
  rw [Code.pack, padded_of_length h]

variable {spec : CommandFrameSpec}

theorem pack_head18 (hsize : spec.data.length ≤ kCommandDataMaxSize) :
    pack [.B, .B, .H, .I, .H, .B, .B, .s 6]
      [.int SOF, .int 0, .int (CMD_HEADER_SIZE + spec.data.length : ℕ), .int spec.seqNum.toNat,
        .int spec.cmdId.toNat, .int spec.cmdType.raw.toNat, .int spec.senderType.raw.toNat,
        .bytes (List.replicate 6 0)] = .ok (commandPreamble spec) := by
  have hlength : Code.pack .H (.int (CMD_HEADER_SIZE + spec.data.length : ℕ)) =
      .ok (encodeLe (UInt16.ofNat (commandFrameSize spec.data.length))) := by
    have h := pack_H (UInt16.ofNat (commandFrameSize spec.data.length))
    rwa [toNat_ofNat_commandFrameSize hsize] at h
  have hresv : pack [.s 6] [.bytes (List.replicate 6 0)] = .ok (List.replicate 6 0 ++ []) :=
    pack_cons (pack_s List.length_replicate) rfl
  rw [List.append_nil] at hresv
  exact pack_cons (pack_B kCommandSof) (pack_cons (pack_B kProtocolVersion) (pack_cons hlength
    (pack_cons (pack_I _) (pack_cons (pack_H _) (pack_cons (pack_B _)
      (pack_cons (pack_B _) hresv))))))

/-- The encoder packs the header in two pieces. -/
theorem CommandFrame.encode_ok {f : CommandFrame} {head18 crcs : List UInt8}
    (hsize : f.data.length ≤ CMD_FRAME_MAX - CMD_HEADER_SIZE)
    (hhead : pack [.B, .B, .H, .I, .H, .B, .B, .s 6]
      [.int SOF, .int 0, .int (CMD_HEADER_SIZE + f.data.length : ℕ), .int f.seqNum, .int f.cmdId,
        .int f.cmdType, .int f.senderType, .bytes f.resv] = .ok head18)
    (hcrcs : pack [.H, .I] [.int (crc16CcittFalse head18),
      .int (if f.data = [] then 0 else crc32 f.data : ℕ)] = .ok crcs) :
    f.encode = .ok (head18 ++ crcs ++ f.data) := by
  rw [CommandFrame.encode, if_neg (Nat.not_lt.mpr hsize)]
  simp only [hhead, hcrcs]

/-- **The two encoders of a frame agree**, also in what they refuse. -/
theorem CommandFrame.encode_ofSpec (spec : CommandFrameSpec) :
    (CommandFrame.ofSpec spec).encode =
      (buildCommandFrame spec).mapError fun _ => Exn.valueError "data too large" := by
  rw [buildCommandFrame_eq]
  by_cases hsize : spec.data.length ≤ kCommandDataMaxSize
  · have hcrcs : pack [.H, .I] [.int (crc16CcittFalse (commandPreamble spec) : ℕ),
        .int ((if spec.data = [] then 0 else crc32 spec.data) : ℕ)] =
        .ok (encodeLe (Crc.crc16CcittFalse (commandPreamble spec)) ++
          (encodeLe (payloadCrc32 spec.data) ++ [])) := by
      rw [crc16CcittFalse_eq, payloadCrc32_eq]
      exact pack_cons (pack_H _) (pack_cons (pack_I _) pack_nil)
    have hencode := CommandFrame.encode_ok (f := ofSpec spec) hsize (pack_head18 hsize) hcrcs
    rw [if_pos hsize, hencode]
    simp [Except.mapError, commandWire, ofSpec]
  · have hlarge : (ofSpec spec).data.length > CMD_FRAME_MAX - CMD_HEADER_SIZE :=
      Nat.not_le.mp hsize
    rw [if_neg hsize, CommandFrame.encode, if_pos hlarge]
    rfl

/-- **A frame on the wire is parsed to its fields**, whatever follows it. -/
theorem CommandFrame.parse_commandWire (tail : List UInt8)
    (hsize : spec.data.length ≤ kCommandDataMaxSize) :
    CommandFrame.parse (commandWire spec ++ tail) = .ok (ofSpec spec) := by
  have hagree := parseCommandFrame_agree (commandWire spec ++ tail)
  rw [parseCommandFrame_commandWire tail hsize] at hagree
  cases hparse : CommandFrame.parse (commandWire spec ++ tail) with
  | error =>
    rw [hparse] at hagree
    cases hagree
  | ok f =>
    rw [hparse] at hagree
    obtain ⟨hseq, hcmd, htype, hsender, hresv, hdata⟩ := hagree
    obtain ⟨seqNum, cmdId, cmdType, senderType, data, resv⟩ := f
    dsimp only at hseq hcmd htype hsender hresv hdata
    subst hseq hcmd htype hsender hresv hdata
    rfl

/-- A frame of the host is parsed to its fields. -/
theorem CommandFrame.parse_of_build {frame : List UInt8} (h : buildCommandFrame spec = .ok frame) :
    CommandFrame.parse frame = .ok (ofSpec spec) := by
  rw [buildCommandFrame_eq] at h
  split_ifs at h with hsize
  cases h
  have hwire := CommandFrame.parse_commandWire [] hsize
  rwa [List.append_nil] at hwire

/-! ## Payloads -/

/-- `b''.join(struct.pack('<H', k) for k in keys)`. -/
def packKeys : List ℕ → Except Exn (List UInt8)
  | [] => .ok []
  | k :: ks =>
    match pack [.H] [.int k] with
    | .error x => .error x
    | .ok head =>
      match packKeys ks with
      | .error x => .error x
      | .ok rest => .ok (head ++ rest)

/-- `encode_param_config`. -/
def encodeParamConfig (kvs : List (ℕ × List UInt8)) : Except PushExn (List UInt8) :=
  match pack [.H, .H] [.int kvs.length, .int 0] with
  | .error x => .error (.exn x)
  | .ok head =>
    match encodeKvList (kvs.map fun e => (e.1, some e.2)) with
    | .error x => .error x
    | .ok body => .ok (head ++ body)

/-- `encode_param_inquire`. -/
def encodeParamInquire (keys : List ℕ) : Except Exn (List UInt8) :=
  match pack [.H, .H] [.int keys.length, .int 0] with
  | .error x => .error x
  | .ok head =>
    match packKeys keys with
    | .error x => .error x
    | .ok body => .ok (head ++ body)

/-- `encode_reboot`. -/
def encodeReboot (timeoutMs : ℤ) : Except Exn (List UInt8) :=
  pack [.H] [.int timeoutMs]

/-- `encode_set_gps_timestamp`. -/
def encodeSetGpsTimestamp (ns : ℤ) : Except Exn (List UInt8) :=
  pack [.B, .Q] [.int 2, .int ns]

/-- `encode_debug_data_control`, for an address that has been split into its bytes. -/
def encodeDebugDataControl (enable : Bool) (ip : Ipv4) (port reserved : ℤ) :
    Except Exn (List UInt8) :=
  pack [.B, .s 4, .H, .H]
    [.int (if enable then 1 else 0), .bytes ip.bytes, .int port, .int reserved]

/-- Two numbers are packed if they have sixteen bits. -/
theorem pack_HH (k n : ℕ) :
    pack [.H, .H] [.int k, .int n] =
      if k < 0x10000 ∧ n < 0x10000 then
        .ok (encodeLe (UInt16.ofNat k) ++ encodeLe (UInt16.ofNat n))
      else .error .structError := by
  rw [pack, pack, pack_H_natCast, pack_H_natCast, pack_nil]
  by_cases hk : k < 0x10000 <;> by_cases hn : n < 0x10000 <;> simp [hk, hn]

theorem pack_count (n : ℕ) :
    pack [.H, .H] [.int n, .int 0] =
      if n < 0x10000 then .ok (encodeLe (UInt16.ofNat n) ++ encodeLe (0 : UInt16))
      else .error .structError := by
  have h := pack_HH n 0
  simpa using h

/-- A list of entries is encoded if every key and every length has sixteen bits. -/
theorem encodeKvList_entries (out : List (ℕ × List UInt8)) :
    encodeKvList (out.map fun e => (e.1, some e.2)) =
      if ∀ e ∈ out, e.1 < 0x10000 ∧ e.2.length < 0x10000 then
        .ok ((out.map fun e => ⟨UInt16.ofNat e.1, e.2⟩).flatMap KeyValue.bytes)
      else .error (.exn .structError) := by
  induction out with
  | nil => simp [encodeKvList]
  | cons e out ih =>
    rw [List.map_cons, encodeKvList, pack_HH, ih]
    simp only [List.forall_mem_cons]
    by_cases hhead : e.1 < 0x10000 ∧ e.2.length < 0x10000
    · by_cases hrest : ∀ e ∈ out, e.1 < 0x10000 ∧ e.2.length < 0x10000
      · rw [if_pos hhead, if_pos hrest, if_pos ⟨hhead, hrest⟩]
        simp [KeyValue.bytes]
      · rw [if_pos hhead, if_neg hrest, if_neg (not_and_of_not_right _ hrest)]
    · rw [if_neg hhead, if_neg (not_and_of_not_left _ hhead)]

theorem encodeKvList_pairs (kvs : List KeyValue) :
    encodeKvList ((kvs.map fun kv => (kv.key.toNat, kv.value)).map fun e => (e.1, some e.2)) =
      if ∀ kv ∈ kvs, kv.value.length < 0x10000 then .ok (kvs.flatMap KeyValue.bytes)
      else .error (.exn .structError) := by
  have hkey : ∀ kv : KeyValue, kv.key.toNat < 0x10000 := fun kv => kv.key.toNat_lt
  rw [encodeKvList_entries]
  simp [Function.comp_def, hkey]

theorem encodeParamConfig_eq (kvs : List KeyValue) :
    encodeParamConfig (kvs.map fun kv => (kv.key.toNat, kv.value)) =
      if kvs.length < 0x10000 ∧ ∀ kv ∈ kvs, kv.value.length < 0x10000 then
        .ok (encodeParamConfigRequest kvs)
      else .error (.exn .structError) := by
  rw [encodeParamConfig, List.length_map, pack_count, encodeKvList_pairs]
  by_cases hcount : kvs.length < 0x10000
  · by_cases hvalues : ∀ kv ∈ kvs, kv.value.length < 0x10000
    · rw [if_pos hcount, if_pos hvalues, if_pos ⟨hcount, hvalues⟩, encodeParamConfigRequest_eq]
      simp
    · rw [if_pos hcount, if_neg hvalues, if_neg (not_and_of_not_right _ hvalues)]
  · rw [if_neg hcount, if_neg (not_and_of_not_left _ hcount)]

theorem packKeys_eq (keys : List UInt16) :
    packKeys (keys.map UInt16.toNat) = .ok (keys.flatMap encodeLe) := by
  induction keys with
  | nil => rfl
  | cons key keys ih =>
    rw [List.map_cons, packKeys, pack_cons (pack_H key) pack_nil, ih]
    simp

theorem encodeParamInquire_eq (keys : List UInt16) :
    encodeParamInquire (keys.map UInt16.toNat) =
      if keys.length < 0x10000 then .ok (encodeParamInquireRequest keys)
      else .error .structError := by
  rw [encodeParamInquire, List.length_map, pack_count, packKeys_eq]
  by_cases hcount : keys.length < 0x10000
  · rw [if_pos hcount, if_pos hcount, encodeParamInquireRequest_eq]
    simp
  · rw [if_neg hcount, if_neg hcount]

theorem encodeReboot_eq (timeoutMs : UInt16) :
    encodeReboot timeoutMs.toNat = .ok (encodeRebootRequest timeoutMs) := by
  rw [encodeReboot, pack_cons (pack_H timeoutMs) pack_nil, encodeRebootRequest_eq, List.append_nil]

theorem encodeSetGpsTimestamp_eq (ns : UInt64) :
    encodeSetGpsTimestamp ns.toNat = .ok (encodeSetGpsTimestampRequest ns) := by
  rw [encodeSetGpsTimestamp, encodeSetGpsTimestampRequest_eq]
  have h := pack_cons (pack_B 2) (pack_cons (pack_Q ns) pack_nil)
  rwa [List.append_nil] at h

theorem encodeDebugDataControl_eq (req : DebugDataControlRequest) :
    encodeDebugDataControl req.enable req.hostIp req.hostPort.toNat req.reserved.toNat =
      .ok (LivoxMid360.encodeDebugDataControl req) := by
  have henable : Code.pack .B (.int (if req.enable then 1 else 0)) =
      .ok (encodeLe (if req.enable then (1 : UInt8) else 0)) := by
    cases req.enable with
    | false => exact pack_B 0
    | true => exact pack_B 1
  have hip : Code.pack (.s 4) (.bytes req.hostIp.bytes) = .ok req.hostIp.bytes := pack_s rfl
  rw [encodeDebugDataControl, LivoxMid360.encodeDebugDataControl_eq]
  have h := pack_cons henable (pack_cons hip (pack_cons (pack_H req.hostPort)
    (pack_cons (pack_H req.reserved) pack_nil)))
  rwa [List.append_nil] at h

/-- **The C++ and the Python encoders agree**, on every frame and on the payload of every
request.  Exactly the lists with more entries, or longer ones, than sixteen bits can count
are encoded differently: Python raises, and the C++ payload is one that `build_command_frame`
refuses. -/
theorem encoders_agree :
    (∀ spec, (CommandFrame.ofSpec spec).encode =
      (buildCommandFrame spec).mapError fun _ => Exn.valueError "data too large") ∧
    (∀ kvs : List KeyValue,
      if kvs.length < 0x10000 ∧ ∀ kv ∈ kvs, kv.value.length < 0x10000 then
        encodeParamConfig (kvs.map fun kv => (kv.key.toNat, kv.value)) =
          .ok (encodeParamConfigRequest kvs)
      else encodeParamConfig (kvs.map fun kv => (kv.key.toNat, kv.value)) =
          .error (.exn .structError) ∧
        ∀ seqNum cmdId cmdType senderType,
          buildCommandFrame ⟨seqNum, cmdId, cmdType, senderType, encodeParamConfigRequest kvs⟩ =
            .error .kDataTooLarge) ∧
    (∀ keys : List UInt16,
      if keys.length < 0x10000 then
        encodeParamInquire (keys.map UInt16.toNat) = .ok (encodeParamInquireRequest keys)
      else encodeParamInquire (keys.map UInt16.toNat) = .error .structError ∧
        ∀ seqNum cmdId cmdType senderType,
          buildCommandFrame ⟨seqNum, cmdId, cmdType, senderType, encodeParamInquireRequest keys⟩ =
            .error .kDataTooLarge) ∧
    (∀ timeoutMs : UInt16,
      encodeReboot timeoutMs.toNat = .ok (encodeRebootRequest timeoutMs)) ∧
    (∀ ns : UInt64,
      encodeSetGpsTimestamp ns.toNat = .ok (encodeSetGpsTimestampRequest ns)) ∧
    (∀ req : DebugDataControlRequest,
      encodeDebugDataControl req.enable req.hostIp req.hostPort.toNat req.reserved.toNat =
        .ok (LivoxMid360.encodeDebugDataControl req)) := by
  refine ⟨CommandFrame.encode_ofSpec, fun kvs => ?_, fun keys => ?_, encodeReboot_eq,
    encodeSetGpsTimestamp_eq, encodeDebugDataControl_eq⟩
  · rw [encodeParamConfig_eq]
    split_ifs with hfits
    · rfl
    · refine ⟨rfl, fun seqNum cmdId cmdType senderType => ?_⟩
      rw [buildCommandFrame_eq, if_neg]
      -- what does not fit sixteen bits makes the payload longer than a frame
      intro hsize
      have hlength : (encodeParamConfigRequest kvs).length ≤ 1376 := hsize
      rw [encodeParamConfigRequest_length] at hlength
      refine hfits ⟨?_, fun kv hkv => ?_⟩
      · have := four_mul_length_le_kvListSize kvs
        omega
      · have := value_length_le_kvListSize hkv
        omega
  · rw [encodeParamInquire_eq]
    split_ifs with hfits
    · rfl
    · refine ⟨rfl, fun seqNum cmdId cmdType senderType => ?_⟩
      rw [buildCommandFrame_eq, if_neg]
      intro hsize
      have hlength : (encodeParamInquireRequest keys).length ≤ 1376 := hsize
      rw [encodeParamInquireRequest_length] at hlength
      omega

end Python

end LivoxMid360
