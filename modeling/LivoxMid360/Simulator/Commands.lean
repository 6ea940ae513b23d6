import LivoxMid360.Simulator.Lifecycle

/-!
# The commands of the simulator

`_handle_datagram` parses a datagram, decides by the port and the command whether it is a
request at all, lets an injected failure answer it or carries it out (`dispatch`), and sends
the ACK.

* `unpackConfig_request` and `unpackInquire_request` say what becomes of the requests that a
  Session encodes, `handleDatagram_ack`, `dispatch_inquire` and `dispatch_configure` what they
  are answered with.
* `Control` are the lines of the control channel, and `step` is one event: a turn of the main
  loop, a datagram or such a line.  What the clocks and the sockets give meanwhile are its
  `Readings`.  An exception ends the run.
* `step_change` says that every event is one of the changes of `Lifecycle`; what these keep
  holds after every run (`run_induction`).

`reboot_in_time` and `settings_written_back` are the results.
-/

namespace LivoxMid360

open LittleEndian

namespace Simulator

open Python (Exn PushExn pack unpackFrom parseKvList encodeKvList CommandFrame)

/-! The commands, and the ports they come in on. -/

def CMD_DISCOVERY : ℕ := 0x0000
def CMD_PARAM_CONFIG : ℕ := 0x0100
def CMD_PARAM_INQUIRE : ℕ := 0x0101
def CMD_REBOOT : ℕ := 0x0200
def CMD_FACTORY_RESET : ℕ := 0x0201
def CMD_SET_GPS_TIME : ℕ := 0x0202
def CMD_PUSH_LOG : ℕ := 0x0300
def CMD_COLLECTION_LOG : ℕ := 0x0301
def CMD_DEBUG_DATA : ℕ := 0x0303

/-- The code of a request that is cut short or refused. -/
def RET_FAIL : RetCode := ⟨0x01⟩

/-- `LOG_TYPES`: realtime and exception. -/
def LOG_TYPES : List UInt8 := [0, 1]

/-- The sockets that are listened on. -/
inductive Port where
  | discovery
  | cmd
  | log
deriving DecidableEq

/-! ## Requests -/

/-- `struct.unpack_from('<HH', data, 0)`: the count of a configure or inquire request. -/
def unpackCount (data : List UInt8) : Except Exn ℕ :=
  match unpackFrom [.H, .H] data 0 with
  | .ok [.int n, .int _] => .ok n
  | .ok _ => .error .structError
  | .error x => .error x

/-- The number in a field. -/
def fieldNat : Python.Value → ℕ
  | .int n => n
  | .bytes _ => 0

/-- The entries of a configure request. -/
def unpackConfig (data : List UInt8) : Except Exn (List (ℕ × List UInt8)) :=
  match unpackCount data with
  | .error x => .error x
  | .ok n => parseKvList (data.drop 4) n

/-- The keys of an inquire request. -/
def unpackInquire (data : List UInt8) : Except Exn (List ℕ) :=
  match unpackCount data with
  | .error x => .error x
  | .ok n =>
    match unpackFrom (List.replicate n .H) data 4 with
    | .error x => .error x
    | .ok values => .ok (values.map fieldNat)

/-- The keys that a request names. -/
def unpackKeys (f : CommandFrame) : Except Exn (List ℕ) :=
  if f.cmdId = CMD_PARAM_CONFIG then (unpackConfig f.data).map (·.map Prod.fst)
  else unpackInquire f.data

/-- `struct.pack('<B', ret)`. -/
def packRet (ret : ℤ) : Except PushExn (List UInt8) :=
  match pack [.B] [.int ret] with
  | .error x => .error (.exn x)
  | .ok payload => .ok payload

/-- `struct.pack('<BH', ret, n)`. -/
def packRetH (ret n : ℤ) : Except PushExn (List UInt8) :=
  match pack [.B, .H] [.int ret, .int n] with
  | .error x => .error (.exn x)
  | .ok payload => .ok payload

/-- A code and entries, as an inquire request is answered. -/
def packEntries (ret : RetCode) (kvs : List (ℕ × List UInt8)) : Except PushExn (List UInt8) :=
  match packRetH ret.raw.toNat kvs.length with
  | .error x => .error x
  | .ok head =>
    match encodeKvList (kvs.map fun e => (e.1, some e.2)) with
    | .error x => .error x
    | .ok body => .ok (head ++ body)

/-! ### Requests of a Session -/

/-- The pairs of an entry list, as Python has them. -/
def pairs (kvs : List KeyValue) : List (ℕ × List UInt8) :=
  kvs.map fun kv => (kv.key.toNat, kv.value)

/-- The count stands in front of everything else. -/
theorem unpackCount_bytes (n : UInt16) (rest : List UInt8) :
    unpackCount (encodeLe n ++ (encodeLe (0 : UInt16) ++ rest)) = .ok n.toNat := by
  have hsize : Python.calcsize [.H, .H] ≤
      (encodeLe n ++ (encodeLe (0 : UInt16) ++ rest)).length - 0 := by
    have hcalc : Python.calcsize [.H, .H] = 4 := rfl
    simp only [hcalc, List.length_append, encodeLe_length, size_uint16]
    omega
  rw [unpackCount, Python.unpackFrom_eq hsize]
  simp only [Python.unpack, Python.Code.size, Python.decode_H, readLe_append_zero]

/-- **A configure request of a Session is unpacked** to its entries. -/
theorem unpackConfig_request {kvs : List KeyValue} (hcount : kvs.length < 0x10000)
    (hvalues : ∀ kv ∈ kvs, kv.value.length < 0x10000) :
    unpackConfig (encodeParamConfigRequest kvs) = .ok (pairs kvs) := by
  obtain ⟨parsed, hparsed, hagree⟩ := Python.parseKvList_agree (kvs.flatMap KeyValue.bytes)
    kvs.length (by rw [kKeyValueVectorMaxSize]; omega)
  rw [parseKeyValueList_kvListBytes hcount hvalues] at hparsed
  cases hparsed
  have hdrop : (encodeParamConfigRequest kvs).drop 4 = kvs.flatMap KeyValue.bytes := by
    rw [encodeParamConfigRequest_eq, ← List.append_assoc, List.drop_left' (by simp)]
  rw [unpackConfig, hdrop, encodeParamConfigRequest_eq, unpackCount_bytes,
    UInt16.toNat_ofNat_of_lt' hcount]
  dsimp only
  cases hkvs : parseKvList (kvs.flatMap KeyValue.bytes) kvs.length with
  | error =>
    rw [hkvs] at hagree
    cases hagree
  | ok =>
    rw [hkvs] at hagree
    exact congrArg Except.ok hagree

/-- Keys one behind the other are unpacked one after the other. -/
theorem unpack_keys (pre : List UInt8) (keys : List UInt16) :
    Python.unpack (List.replicate keys.length .H) (pre ++ keys.flatMap encodeLe) pre.length =
      keys.map fun key => .int key.toNat := by
  induction keys generalizing pre with
  | nil => rfl
  | cons key keys ih =>
    have hrest := ih (pre ++ encodeLe key)
    rw [List.append_assoc, List.length_append, encodeLe_length, size_uint16] at hrest
    rw [List.length_cons, List.replicate_succ, List.flatMap_cons, Python.unpack,
      Python.Code.size, hrest, Python.decode_H, readLe_append rfl]
    rfl

/-- **An inquire request of a Session is unpacked** to its keys. -/
theorem unpackInquire_request {keys : List UInt16} (hcount : keys.length < 0x10000) :
    unpackInquire (encodeParamInquireRequest keys) = .ok (keys.map UInt16.toNat) := by
  have hcalc : Python.calcsize (List.replicate keys.length .H) = 2 * keys.length := by
    simp [Python.calcsize, Python.Code.size, Nat.mul_comm]
  have hkeys := unpack_keys (encodeLe (UInt16.ofNat keys.length) ++ encodeLe (0 : UInt16)) keys
  have hunpack : unpackFrom (List.replicate keys.length .H) (encodeParamInquireRequest keys) 4 =
      .ok (keys.map fun key => .int key.toNat) := by
    rw [Python.unpackFrom_eq]
    · rw [encodeParamInquireRequest_eq, ← List.append_assoc, ← hkeys]
      simp
    · rw [hcalc, encodeParamInquireRequest_length]
      omega
  have hfirst : unpackCount (encodeParamInquireRequest keys) = .ok keys.length := by
    rw [encodeParamInquireRequest_eq, unpackCount_bytes, UInt16.toNat_ofNat_of_lt' hcount]
  rw [unpackInquire, hfirst]
  dsimp only
  rw [hunpack]
  simp [Function.comp_def, fieldNat]

/-! ### Answers of the simulator -/

/-- A code and a number that fits sixteen bits. -/
theorem packRetH_eq (ret : RetCode) (n : ℕ) :
    packRetH ret.raw.toNat n =
      if n < 0x10000 then .ok (encodeLe ret.raw ++ encodeLe (UInt16.ofNat n))
      else .error (.exn .structError) := by
  have hcount := Python.pack_H_natCast n
  rw [packRetH]
  split_ifs at hcount ⊢ with hn
  · have h := Python.pack_cons (Python.pack_B ret.raw) (Python.pack_cons hcount Python.pack_nil)
    rw [List.append_nil] at h
    rw [h]
  · rw [Python.pack, Python.pack_B, Python.pack, hcount]

/-- Entries that are packed at all have sixteen-bit keys and lengths. -/
theorem packEntries_eq_ok {ret : RetCode} {out : List (ℕ × List UInt8)} {payload : List UInt8}
    (h : packEntries ret out = .ok payload) :
    ∃ kvs, out = pairs kvs ∧ kvs.length < 0x10000 ∧
      (∀ kv ∈ kvs, kv.value.length < 0x10000) ∧
      payload = encodeLe ret.raw ++
        (encodeLe (UInt16.ofNat kvs.length) ++ kvs.flatMap KeyValue.bytes) := by
  rw [packEntries, packRetH_eq, Python.encodeKvList_entries] at h
  split_ifs at h with hcount hfits
  cases h
  refine ⟨out.map fun e => ⟨UInt16.ofNat e.1, e.2⟩, ?_, by rwa [List.length_map],
    List.forall_mem_map.mpr fun e he => (hfits e he).2, by simp⟩
  rw [pairs, List.map_map]
  refine (List.map_id out).symm.trans (List.map_congr_left fun e he => ?_)
  simp [UInt16.toNat_ofNat_of_lt' (hfits e he).1]

/-! ## Carrying out a request -/

namespace Sim

variable {Time : Type} [Add Time] [LinearOrder Time]

/-- What a request leads to: the simulator, the last push before a power-down, and the
payload of the ACK, if there is one. -/
structure Outcome (Time : Type) where
  sim : Sim Time
  push : Option (List UInt8) := none
  payload : Option (List UInt8) := none

/-- A request that is answered, once the payload is packed. -/
def Outcome.of (s : Sim Time) (push : Option (List UInt8)) :
    Except PushExn (List UInt8) → Except PushExn (Outcome Time)
  | .error x => .error x
  | .ok payload => .ok ⟨s, push, some payload⟩

/-- A request that is answered with a code only. -/
def Outcome.ofRet (s : Sim Time) (push : Option (List UInt8)) (ret : RetCode) :
    Except PushExn (Outcome Time) :=
  Outcome.of s push (packRet ret.raw.toNat)

/-- `_injected_failure`: the simulator, and the payload of a request that is rejected. -/
def injectedFailure (s : Sim Time) (f : CommandFrame) :
    Except PushExn (Sim Time × Option (List UInt8)) :=
  match s.failCmds f.cmdId with
  | none => .ok (s, none)
  | some rule =>
    let named :=
      match rule.key with
      | none => true
      | some key =>
        match unpackKeys f with
        | .error _ => false
        | .ok keys => keys.any fun k => (k : ℤ) = key
    if named = false then .ok (s, none)
    -- the first `skip` requests that the rule names are let through
    else if rule.skip > 0 then
      let rule := { rule with skip := rule.skip - 1 }
      .ok ({ s with failCmds := Function.update s.failCmds f.cmdId (some rule) }, none)
    else
      let rule := { rule with count := rule.count - 1 }
      -- a rule that is used up is forgotten
      let left := if rule.count ≤ 0 then none else some rule
      let s := { s with failCmds := Function.update s.failCmds f.cmdId left }
      let payload :=
        if f.cmdId = CMD_PARAM_CONFIG then packRetH rule.ret (rule.key.getD 0)
        else if f.cmdId = CMD_PARAM_INQUIRE then packRetH rule.ret 0
        else packRet rule.ret
      match payload with
      | .error x => .error x
      | .ok payload => .ok (s, some payload)

/-- `_log_control`. -/
def logControl (args : Args Time) (s : Sim Time) (logType : UInt8) (enable : Bool)
    (addr : Endpoint) (r : Readings Time) : Sim Time :=
  match s.logStreams.lookup logType with
  | none =>
    if enable then
      { s with
        nextLog := if s.logStreams = [] then r.again + args.logChunkInterval else s.nextLog
        logStreams := s.logStreams ++ [(logType, { logType, requester := some addr })] }
    else s
  | some _ =>
    if enable then
      { s with
        logStreams := s.logStreams.map fun e =>
          if e.1 = logType then (e.1, { e.2 with requester := some addr }) else e }
    else { s with logStreams := s.logStreams.filter fun e => e.1 ≠ logType }

/-- `_debug_control`: whether the request is accepted. -/
def debugControl (s : Sim Time) (enable : Bool) (dest : Ipv4 × UInt16) (r : Readings Time) :
    Bool × Sim Time :=
  if enable = false ∨ dest.2 = 0 then (true, { s with debugDest := none })
  else if r.debugSocket = false then (false, s)
  else
    (true,
      { s with
        nextDebug := if s.debugDest = none then r.again else s.nextDebug
        debugDest := some dest })

/-- `CMD_PARAM_CONFIG` of `_dispatch`. -/
def dispatchConfig (s : Sim Time) (f : CommandFrame) (r : Readings Time) :
    Except PushExn (Outcome Time) :=
  match unpackConfig f.data with
  | .error _ => Outcome.of s none (packRetH RET_FAIL.raw.toNat 0)
  | .ok kvs =>
    let ((ret, err), model) := s.model.configure kvs r.now
    Outcome.of (s.withModel model) none (packRetH ret.raw.toNat err)

/-- `CMD_PARAM_INQUIRE` of `_dispatch`. -/
def dispatchInquire (s : Sim Time) (f : CommandFrame) (r : Readings Time) :
    Except PushExn (Outcome Time) :=
  match unpackInquire f.data with
  | .error _ => Outcome.of s none (packRetH RET_FAIL.raw.toNat 0)
  | .ok keys =>
    match s.model.inquire keys r.nowNs with
    | .error x => .error (.exn x)
    | .ok (ret, kvs) => Outcome.of s none (packEntries ret kvs)

/-- `CMD_REBOOT` and `CMD_FACTORY_RESET` of `_dispatch`. -/
def dispatchReboot (args : Args Time) (s : Sim Time) (factory : Bool) (r : Readings Time) :
    Except PushExn (Outcome Time) :=
  match s.doReboot args factory r with
  | .error x => .error x
  | .ok (s, push) => Outcome.ofRet s push RET_OK

/-- `CMD_DISCOVERY` of `_dispatch`. -/
def dispatchDiscovery (args : Args Time) (s : Sim Time) (r : Readings Time) :
    Except PushExn (Outcome Time) :=
  Outcome.of s none
    ((pack [.B, .B, .s 16, .s 4, .H]
      [.int RET_OK.raw.toNat, .int args.devType, .bytes (padded 16 s.model.sn),
        .bytes r.advertised.bytes, .int args.cmdPort]).mapError .exn)

/-- `CMD_SET_GPS_TIME` of `_dispatch`. -/
def dispatchGpsTime (s : Sim Time) (f : CommandFrame) (r : Readings Time) :
    Except PushExn (Outcome Time) :=
  if f.data.length < 9 ∨ f.data.getD 0 0 ≠ 2 then Outcome.ofRet s none RET_FAIL
  else
    let ns := (readLe UInt64 f.data 1).toNat
    Outcome.ofRet (s.withModel (s.model.setGpsTime ns r.localNs r.wallNs)) none RET_OK

/-- `CMD_COLLECTION_LOG` of `_dispatch`. -/
def dispatchLog (args : Args Time) (s : Sim Time) (f : CommandFrame) (addr : Endpoint)
    (r : Readings Time) : Except PushExn (Outcome Time) :=
  if f.data.length < 2 then Outcome.ofRet s none RET_FAIL
  -- an undefined type is answered with success, and nothing streams
  else if f.data.getD 0 0 ∈ LOG_TYPES then
    Outcome.ofRet (s.logControl args (f.data.getD 0 0) (f.data.getD 1 0 ≠ 0) addr r) none RET_OK
  else Outcome.ofRet s none RET_OK

/-- `CMD_DEBUG_DATA` of `_dispatch`. -/
def dispatchDebug (s : Sim Time) (f : CommandFrame) (r : Readings Time) :
    Except PushExn (Outcome Time) :=
  if f.data.length < 9 then Outcome.ofRet s none RET_FAIL
  else
    let byte := fun i => f.data.getD i 0
    let dest : Ipv4 × UInt16 := (⟨byte 1, byte 2, byte 3, byte 4⟩, readLe UInt16 f.data 5)
    let control := s.debugControl (byte 0 ≠ 0) dest r
    Outcome.ofRet control.2 none (if control.1 then RET_OK else RET_FAIL)

/-- `_dispatch`. -/
def dispatch (args : Args Time) (s : Sim Time) (f : CommandFrame) (addr : Endpoint)
    (r : Readings Time) : Except PushExn (Outcome Time) :=
  if f.cmdId = CMD_DISCOVERY then s.dispatchDiscovery args r
  else if f.cmdId = CMD_PARAM_CONFIG then s.dispatchConfig f r
  else if f.cmdId = CMD_PARAM_INQUIRE then s.dispatchInquire f r
  else if f.cmdId = CMD_REBOOT then s.dispatchReboot args false r
  else if f.cmdId = CMD_FACTORY_RESET then s.dispatchReboot args true r
  else if f.cmdId = CMD_SET_GPS_TIME then s.dispatchGpsTime f r
  else if f.cmdId = CMD_COLLECTION_LOG then s.dispatchLog args f addr r
  else if f.cmdId = CMD_DEBUG_DATA then s.dispatchDebug f r
  -- a command that is unknown gets no ACK
  else .ok ⟨s, none, none⟩

/-- A request is answered by an injected failure, or carried out. -/
def answer (args : Args Time) (s : Sim Time) (f : CommandFrame) (addr : Endpoint)
    (r : Readings Time) : Except PushExn (Outcome Time) :=
  match s.injectedFailure f with
  | .error x => .error x
  | .ok (s, some payload) => .ok ⟨s, none, some payload⟩
  | .ok (s, none) => s.dispatch args f addr r

/-! ## Datagrams -/

/-- The port takes this command. -/
def takes (port : Port) (cmdId : ℕ) : Bool :=
  match port with
  | .discovery => cmdId = CMD_DISCOVERY
  | .cmd => cmdId ≠ CMD_DISCOVERY ∧ cmdId ≠ CMD_DEBUG_DATA
  | .log => cmdId = CMD_COLLECTION_LOG ∨ cmdId = CMD_DEBUG_DATA

/-- What leaves the simulator. -/
structure Sent where
  push : Option (List UInt8) := none
  ack : Option (List UInt8) := none

/-- A push follows every 0x0100 request. -/
def owePush (f : CommandFrame) (s : Sim Time) : Sim Time :=
  { s with pushDue := s.pushDue || decide (f.cmdId = CMD_PARAM_CONFIG) }

/-- `_handle_datagram` once it has an outcome. -/
def acknowledge (f : CommandFrame) (o : Outcome Time) (r : Readings Time) :
    Except PushExn (Sim Time × Sent) :=
  let s := o.sim.owePush f
  match o.payload with
  | none => .ok (s, { push := o.push })
  | some payload =>
    -- the request is carried out, and only its ACK is lost
    if s.dropAck > 0 then .ok ({ s with dropAck := s.dropAck - 1 }, { push := o.push })
    else
      match (CommandFrame.mk f.seqNum f.cmdId ACK SENDER_LIDAR payload
        (List.replicate 6 0)).encode with
      | .error x => .error (.exn x)
      | .ok ack => .ok (s.applyPendingRebind r, { push := o.push, ack := some ack })

/-- `_handle_datagram`. -/
def handleDatagram (args : Args Time) (s : Sim Time) (port : Port) (data : List UInt8)
    (addr : Endpoint) (r : Readings Time) : Except PushExn (Sim Time × Sent) :=
  if r.now < s.silenceUntil then .ok (s, {})
  else
    match CommandFrame.parse data with
    | .error (.valueError _) => .ok (s, {})
    | .error x => .error (.exn x)
    | .ok f =>
      if f.cmdType ≠ REQ then .ok (s, {})
      else if port = .log ∧ f.cmdId = CMD_PUSH_LOG then
        -- `_on_log_ack`
        if f.data.length < 7 then .ok (s, {})
        else .ok ({ s with logAcksReceived := s.logAcksReceived + 1 }, {})
      else if takes port f.cmdId = false then .ok (s, {})
      else
        match s.answer args f addr r with
        | .error x => .error x
        | .ok o => acknowledge f o r

/-! ### The ACK -/

section Ack

variable {args : Args Time} {s s' : Sim Time} {r : Readings Time} {addr : Endpoint}

variable {o : Outcome Time}

omit [Add Time] [LinearOrder Time] in
/-- An answer that is made has a payload. -/
theorem of_eq_ok {push : Option (List UInt8)} {packed : Except PushExn (List UInt8)}
    (h : Outcome.of s push packed = .ok o) :
    o.sim = s ∧ ∃ payload, packed = .ok payload ∧ o.payload = some payload := by
  cases packed with
  | error => cases h
  | ok payload =>
    cases h
    exact ⟨rfl, payload, rfl, rfl⟩

variable {f : CommandFrame}

omit [Add Time] [LinearOrder Time] in
/-- A rule that counts down or is used up changes nothing of the device. -/
theorem injectedFailure_toCore {payload : Option (List UInt8)}
    (h : s.injectedFailure f = .ok (s', payload)) : s'.toCore = s.toCore := by
  unfold injectedFailure at h
  split at h
  · cases h
    rfl
  · dsimp only at h
    split_ifs at h
    · cases h
      rfl
    · cases h
      rfl
    all_goals
      split at h
      · cases h
      · cases h
        rfl

/-- **What a request leads to**: to an injected failure, or it is carried out; the rules that
are left make no difference to the device. -/
theorem answer_cases (h : s.answer args f addr r = .ok o) :
    (∃ s₁ payload, s.injectedFailure f = .ok (s₁, some payload) ∧ o.payload = some payload ∧
        o.sim.toCore = s.toCore) ∨
      ∃ s₁, s.injectedFailure f = .ok (s₁, none) ∧ s₁.toCore = s.toCore ∧
        s₁.dispatch args f addr r = .ok o := by
  unfold answer at h
  split at h
  · cases h
  · rename_i s₁ payload hfail
    cases h
    exact .inl ⟨s₁, payload, hfail, rfl, injectedFailure_toCore hfail⟩
  · rename_i s₁ hfail
    exact .inr ⟨s₁, hfail, injectedFailure_toCore hfail, h⟩

/-- A request is carried out when no rule is set for its command. -/
theorem answer_eq_dispatch (h : s.failCmds f.cmdId = none) :
    s.answer args f addr r = s.dispatch args f addr r := by
  rw [answer, injectedFailure, h]

/-- The ACK frame of an answer. -/
def ackSpec (spec : CommandFrameSpec) (payload : List UInt8) : CommandFrameSpec :=
  { spec with cmdType := .kAck, senderType := .kLidar, data := payload }

/-- The ACK of the simulator is the frame that the C++ side would build. -/
theorem encode_ack (spec : CommandFrameSpec) (payload : List UInt8) :
    (CommandFrame.mk (CommandFrame.ofSpec spec).seqNum (CommandFrame.ofSpec spec).cmdId ACK
      SENDER_LIDAR payload (List.replicate 6 0)).encode =
        (buildCommandFrame (ackSpec spec payload)).mapError fun _ =>
          Exn.valueError "data too large" :=
  CommandFrame.encode_ofSpec (ackSpec spec payload)

variable {sent : Sent}

omit [Add Time] [LinearOrder Time] in
/-- The device stays as it is, and an ACK carries the payload. -/
theorem acknowledge_eq_ok (h : acknowledge f o r = .ok (s', sent)) :
    s'.toCore = o.sim.toCore ∧ ∀ ack, sent.ack = some ack →
      ∃ payload, o.payload = some payload ∧
        (CommandFrame.mk f.seqNum f.cmdId ACK SENDER_LIDAR payload
          (List.replicate 6 0)).encode = .ok ack := by
  unfold acknowledge at h
  dsimp only at h
  split at h
  · cases h
    exact ⟨rfl, by simp⟩
  · rename_i payload hpayload
    split_ifs at h
    · cases h
      exact ⟨rfl, by simp⟩
    · split at h
      · cases h
      · rename_i bytes hencode
        cases h
        refine ⟨applyPendingRebind_toCore _ _, fun ack hack => ⟨payload, hpayload, ?_⟩⟩
        cases hack
        exact hencode

/-- **What a datagram leads to**: to nothing, or to an answer. -/
theorem handleDatagram_cases {port : Port} {data : List UInt8}
    (h : s.handleDatagram args port data addr r = .ok (s', sent)) :
    s'.toCore = s.toCore ∧ sent = {} ∨
      ∃ f o, CommandFrame.parse data = .ok f ∧ takes port f.cmdId = true ∧
        s.answer args f addr r = .ok o ∧ acknowledge f o r = .ok (s', sent) := by
  have hsilent : ∀ t : Sim Time, t.toCore = s.toCore →
      (.ok (t, {}) : Except PushExn (Sim Time × Sent)) = .ok (s', sent) →
        s'.toCore = s.toCore ∧ sent = {} := by
    intro t ht hq
    cases hq
    exact ⟨ht, rfl⟩
  unfold handleDatagram at h
  split_ifs at h
  · exact .inl (hsilent _ rfl h)
  · split at h
    · exact .inl (hsilent _ rfl h)
    · cases h
    · rename_i f hparse
      split_ifs at h with htype hlog hshort htakes
      · exact .inl (hsilent _ rfl h)
      · exact .inl (hsilent _ rfl h)
      · exact .inl (hsilent _ (by rfl) h)
      · exact .inl (hsilent _ rfl h)
      · split at h
        · cases h
        · rename_i o ho
          exact .inr ⟨f, o, hparse, Bool.eq_true_of_not_eq_false htakes, ho, h⟩

variable {spec : CommandFrameSpec}

/-- **An ACK answers the request that arrived**: it carries the request's number and command,
and its payload is what carrying out the request has given. -/
theorem handleDatagram_ack {port : Port} {frame ack : List UInt8}
    (hframe : buildCommandFrame spec = .ok frame)
    (h : s.handleDatagram args port frame addr r = .ok (s', sent)) (hack : sent.ack = some ack) :
    takes port spec.cmdId.toNat = true ∧ ∃ o payload,
      s.answer args (CommandFrame.ofSpec spec) addr r = .ok o ∧ o.payload = some payload ∧
      s'.toCore = o.sim.toCore ∧ buildCommandFrame (ackSpec spec payload) = .ok ack := by
  have hparse := CommandFrame.parse_of_build hframe
  obtain ⟨-, rfl⟩ | ⟨f, o, hf, htakes, ho, hsent⟩ := handleDatagram_cases h
  · cases hack
  · obtain rfl := Except.ok.inj (hparse.symm.trans hf)
    obtain ⟨hcore, hpayloads⟩ := acknowledge_eq_ok hsent
    obtain ⟨payload, hpayload, hencode⟩ := hpayloads ack hack
    refine ⟨htakes, o, payload, ho, hpayload, hcore, ?_⟩
    rw [encode_ack] at hencode
    cases hbuild : buildCommandFrame (ackSpec spec payload) with
    | error =>
      rw [hbuild] at hencode
      cases hencode
    | ok =>
      rw [hbuild] at hencode
      exact congrArg Except.ok (Except.ok.inj hencode)

/-- **An inquire request of a Session** is answered from the table. -/
theorem dispatch_inquire {keys : List UInt16} (hcmd : spec.cmdId = kParamInquire)
    (hdata : spec.data = encodeParamInquireRequest keys) (hcount : keys.length < 0x10000)
    (h : s.dispatch args (CommandFrame.ofSpec spec) addr r = .ok o) :
    o.sim = s ∧ ∃ ret kvs,
      s.model.inquire (keys.map UInt16.toNat) r.nowNs = .ok (ret, pairs kvs) ∧
      kvs.length < 0x10000 ∧ (∀ kv ∈ kvs, kv.value.length < 0x10000) ∧
      o.payload = some (encodeLe ret.raw ++
        (encodeLe (UInt16.ofNat kvs.length) ++ kvs.flatMap KeyValue.bytes)) := by
  have hid : (CommandFrame.ofSpec spec).cmdId = CMD_PARAM_INQUIRE := by
    rw [CommandFrame.ofSpec, hcmd]
    rfl
  have hkeys : unpackInquire (CommandFrame.ofSpec spec).data = .ok (keys.map UInt16.toNat) := by
    rw [CommandFrame.ofSpec, hdata, unpackInquire_request hcount]
  rw [dispatch, hid] at h
  change s.dispatchInquire _ r = .ok o at h
  unfold dispatchInquire at h
  rw [hkeys] at h
  dsimp only at h
  split at h
  · cases h
  · rename_i ret out hinquire
    obtain ⟨hsim, payload, hpacked, hpayload⟩ := of_eq_ok h
    obtain ⟨kvs, rfl, hlength, hvalues, rfl⟩ := packEntries_eq_ok hpacked
    exact ⟨hsim, ret, kvs, hinquire, hlength, hvalues, hpayload⟩

/-- **A configure request of a Session** is handed to the device model. -/
theorem dispatch_configure {kvs : List KeyValue} (hcmd : spec.cmdId = kParamConfig)
    (hdata : spec.data = encodeParamConfigRequest kvs) (hcount : kvs.length < 0x10000)
    (hvalues : ∀ kv ∈ kvs, kv.value.length < 0x10000)
    (h : s.dispatch args (CommandFrame.ofSpec spec) addr r = .ok o) :
    o.sim = s.withModel (s.model.configure (pairs kvs) r.now).2 ∧ ∃ ret key,
      (s.model.configure (pairs kvs) r.now).1 = (ret, UInt16.toNat key) ∧
      o.payload = some (encodeLe ret.raw ++ encodeLe key) := by
  have hid : (CommandFrame.ofSpec spec).cmdId = CMD_PARAM_CONFIG := by
    rw [CommandFrame.ofSpec, hcmd]
    rfl
  have hkvs : unpackConfig (CommandFrame.ofSpec spec).data = .ok (pairs kvs) := by
    rw [CommandFrame.ofSpec, hdata, unpackConfig_request hcount hvalues]
  rw [dispatch, hid] at h
  change s.dispatchConfig _ r = .ok o at h
  unfold dispatchConfig at h
  rw [hkvs] at h
  dsimp only at h
  obtain ⟨hsim, payload, hpacked, hpayload⟩ := of_eq_ok h
  rw [packRetH_eq] at hpacked
  split_ifs at hpacked with hkey
  cases hpacked
  refine ⟨hsim, _, UInt16.ofNat (s.model.configure (pairs kvs) r.now).1.2, ?_, hpayload⟩
  rw [UInt16.toNat_ofNat_of_lt' hkey]

end Ack

/-! ## Events -/

/-- A line of the control channel that commands depend on; `reboot` and `time_sync` are not
modelled. -/
inductive Control (Time : Type) where
  | silence (seconds : Time)
  | hms (codes : List ℤ)
  | setStatus (diag coreTemp powerupCnt : Option ℤ) (badTimeOffset : Option Bool)
      (omitKeys : Option (Finset ℕ))
  | dropAck (count : ℤ)
  | failCmd (cmdId : ℤ) (rule : FailRule)
  | inquireOverride (key : ℕ) (rule : Option InquireRule)
  | setState (state : WorkState)

/-- `_apply_control`. -/
def applyControl (s : Sim Time) (c : Control Time) (now : Time) : Sim Time :=
  match c with
  | .silence seconds => { s with silenceUntil := later s.silenceUntil (now + seconds) }
  | .hms codes =>
    { s with model.hms := (codes.take 8 ++ List.replicate 8 0).take 8 }
  | .setStatus diag coreTemp powerupCnt badTimeOffset omitKeys =>
    { s with
      model :=
        { s.model with
          diagStatus := diag.getD s.model.diagStatus
          coreTemp := coreTemp.getD s.model.coreTemp
          powerupCnt := powerupCnt.getD s.model.powerupCnt
          badTimeOffset := badTimeOffset.getD s.model.badTimeOffset
          pushOmit := omitKeys.getD s.model.pushOmit } }
  | .dropAck count => { s with dropAck := s.dropAck + count }
  | .failCmd cmdId rule => { s with failCmds := Function.update s.failCmds cmdId (some rule) }
  | .inquireOverride key rule =>
    { s with
      model.inquireOverrides := Function.update s.model.inquireOverrides key rule }
  | .setState state => s.withModel (s.model.forceState state now)

/-- What the main loop handles. -/
inductive Event (Time : Type) where
  | turn
  | datagram (port : Port) (data : List UInt8) (addr : Endpoint)
  | control (c : Control Time)

/-- One event, with what is read while it is handled. -/
def step (args : Args Time) (s : Sim Time) (e : Event Time × Readings Time) :
    Except PushExn (Sim Time × Sent) :=
  match e.1 with
  | .turn => (s.turn args e.2).map fun p => (p.1, { push := p.2 })
  | .datagram port data addr => s.handleDatagram args port data addr e.2
  | .control c => .ok (s.applyControl c e.2.now, {})

/-- A run, until an exception ends it. -/
def run (args : Args Time) :
    List (Event Time × Readings Time) → Sim Time → Except PushExn (Sim Time)
  | [], s => .ok s
  | e :: es, s =>
    match s.step args e with
    | .error x => .error x
    | .ok (s, _) => run args es s

/-! ### What an event changes -/

section Change

variable {args : Args Time} {s s' : Sim Time} {r : Readings Time} {f : CommandFrame}
  {addr : Endpoint} {o : Outcome Time}

/-! The commands one by one: `configure`, `reboot` and `set_gps_time` change the device, the
others only what they switch on or off. -/

theorem dispatchConfig_change (h : s.dispatchConfig f r = .ok o) :
    Core.Change args r.now s.toCore o.sim.toCore := by
  unfold dispatchConfig at h
  split at h
  · rw [(of_eq_ok h).1]
    exact .quiet
  · rename_i kvs hkvs
    rw [(of_eq_ok h).1]
    exact .configures kvs

omit [Add Time] [LinearOrder Time] in
theorem dispatchInquire_sim (h : s.dispatchInquire f r = .ok o) : o.sim = s := by
  unfold dispatchInquire at h
  split at h
  · exact (of_eq_ok h).1
  · split at h
    · cases h
    · exact (of_eq_ok h).1

theorem dispatchReboot_change {factory : Bool} (h : s.dispatchReboot args factory r = .ok o) :
    Core.Change args r.now s.toCore o.sim.toCore := by
  unfold dispatchReboot at h
  split at h
  · cases h
  · rename_i s₁ push hreboot
    rw [(of_eq_ok h).1]
    exact doReboot_change hreboot

theorem dispatchGpsTime_change (h : s.dispatchGpsTime f r = .ok o) :
    Core.Change args r.now s.toCore o.sim.toCore := by
  unfold dispatchGpsTime at h
  split_ifs at h
  · rw [(of_eq_ok h).1]
    exact .quiet
  · rw [(of_eq_ok h).1]
    exact .reports rfl

omit [LinearOrder Time] in
theorem dispatchLog_toCore (h : s.dispatchLog args f addr r = .ok o) : o.sim.toCore = s.toCore := by
  unfold dispatchLog at h
  split_ifs at h
  · rw [(of_eq_ok h).1]
  · rw [(of_eq_ok h).1]
    unfold logControl
    split <;> split_ifs <;> rfl
  · rw [(of_eq_ok h).1]

omit [Add Time] [LinearOrder Time] in
theorem dispatchDebug_toCore (h : s.dispatchDebug f r = .ok o) : o.sim.toCore = s.toCore := by
  unfold dispatchDebug at h
  split_ifs at h
  · rw [(of_eq_ok h).1]
  · rw [(of_eq_ok h).1]
    unfold debugControl
    split_ifs <;> rfl

/-- What a command changes. -/
theorem dispatch_change (h : s.dispatch args f addr r = .ok o) :
    Core.Change args r.now s.toCore o.sim.toCore := by
  unfold dispatch at h
  split_ifs at h
  · rw [(of_eq_ok h).1]
    exact .quiet
  · exact dispatchConfig_change h
  · rw [dispatchInquire_sim h]
    exact .quiet
  · exact dispatchReboot_change h
  · exact dispatchReboot_change h
  · exact dispatchGpsTime_change h
  · rw [dispatchLog_toCore h]
    exact .quiet
  · rw [dispatchDebug_toCore h]
    exact .quiet
  · cases h
    exact .quiet

theorem answer_change (h : s.answer args f addr r = .ok o) :
    Core.Change args r.now s.toCore o.sim.toCore := by
  obtain ⟨s₁, payload, -, -, hsame⟩ | ⟨s₁, -, hsame, hdispatch⟩ := answer_cases h
  · rw [hsame]
    exact .quiet
  · rw [← hsame]
    exact dispatch_change hdispatch

variable {sent : Sent}

theorem handleDatagram_change {port : Port} {data : List UInt8}
    (h : s.handleDatagram args port data addr r = .ok (s', sent)) :
    Core.Change args r.now s.toCore s'.toCore := by
  obtain ⟨hsame, -⟩ | ⟨f, o, -, -, ho, hsent⟩ := handleDatagram_cases h
  · rw [hsame]
    exact .quiet
  · rw [(acknowledge_eq_ok hsent).1]
    exact answer_change ho

theorem applyControl_change (c : Control Time) (now : Time) :
    Core.Change args now s.toCore (s.applyControl c now).toCore := by
  cases c with
  | silence seconds => exact .silences seconds
  | hms => exact .reports rfl
  | setStatus => exact .reports rfl
  | dropAck => exact .quiet
  | failCmd => exact .quiet
  | inquireOverride => exact .reports rfl
  | setState state => exact .forces state

/-- A turn that raises nothing. -/
theorem step_turn_eq_ok (h : s.step args (.turn, r) = .ok (s', sent)) :
    ∃ push, s.turn args r = .ok (s', push) := by
  cases hturn : s.turn args r with
  | error => simp [step, hturn, Except.map] at h
  | ok p =>
    simp only [step, hturn, Except.map] at h
    cases h
    exact ⟨p.2, rfl⟩

/-- **Every event is one of these changes.** -/
theorem step_change {e : Event Time × Readings Time} (h : s.step args e = .ok (s', sent)) :
    Core.Change args e.2.now s.toCore s'.toCore := by
  obtain ⟨event, r⟩ := e
  cases event with
  | turn =>
    obtain ⟨push, hturn⟩ := step_turn_eq_ok h
    exact turn_change hturn
  | datagram => exact handleDatagram_change h
  | control c =>
    cases h
    exact applyControl_change c r.now

end Change

/-! ## Runs -/

section Run

variable {args : Args Time} {s s' : Sim Time} {es : List (Event Time × Readings Time)}

/-- A run starts with its first event. -/
theorem run_cons_eq_ok {e : Event Time × Readings Time} (h : run args (e :: es) s = .ok s') :
    ∃ s₁ sent, s.step args e = .ok (s₁, sent) ∧ run args es s₁ = .ok s' := by
  rw [run] at h
  split at h
  · cases h
  · rename_i s₁ sent hstep
    exact ⟨s₁, sent, hstep, h⟩

theorem run_append (es es' : List (Event Time × Readings Time)) (s : Sim Time) :
    run args (es ++ es') s = (run args es s).bind (run args es') := by
  induction es generalizing s with
  | nil => rfl
  | cons e es ih =>
    rw [List.cons_append, run, run]
    cases s.step args e with
    | error => rfl
    | ok p => exact ih p.1

/-- A run that raises nothing raises nothing halfway. -/
theorem run_append_eq_ok {es' : List (Event Time × Readings Time)}
    (h : run args (es ++ es') s = .ok s') :
    ∃ s₁, run args es s = .ok s₁ ∧ run args es' s₁ = .ok s' := by
  rw [run_append] at h
  cases hes : run args es s with
  | error =>
    rw [hes] at h
    cases h
  | ok s₁ =>
    rw [hes] at h
    exact ⟨s₁, rfl, h⟩

/-- What every change at a time of the run keeps holds after it. -/
theorem run_induction {I : Core Time → Prop} {T : Time → Prop}
    (hstep : ∀ {now c c'}, T now → Core.Change args now c c' → I c → I c')
    (h : run args es s = .ok s') (hs : I s.toCore) (htimes : ∀ e ∈ es, T e.2.now) :
    I s'.toCore := by
  induction es generalizing s with
  | nil =>
    cases h
    exact hs
  | cons e es ih =>
    obtain ⟨s₁, sent, he, hrest⟩ := run_cons_eq_ok h
    obtain ⟨hnow, htimes⟩ := List.forall_mem_cons.mp htimes
    exact ih hrest (hstep hnow (step_change he) hs) htimes

/-- The settings stay acceptable. -/
theorem run_acceptable (h : run args es s = .ok s') (hs : s.toCore.Acceptable) :
    s'.toCore.Acceptable :=
  run_induction (T := fun _ => True) (fun _ hchange hc => hc.change hchange) h hs fun _ _ => trivial

/-- As long as no event is later than `last`, a reboot comes within the delay after it. -/
theorem run_scheduled [AddRightMono Time] {last : Time} (h : run args es s = .ok s')
    (hs : s.toCore.Scheduled args last) (hlast : ∀ e ∈ es, e.2.now ≤ last) :
    s'.toCore.Scheduled args last :=
  run_induction (fun hnow hchange hc => hc.change hnow hchange) h hs hlast

/-- The device starts again at one of the events of a run. -/
inductive RestartsIn (args : Args Time) (factory : Bool) :
    List (Event Time × Readings Time) → Sim Time → Sim Time → Prop
  | first {e es s s₁ s' sent} (hstep : s.step args e = .ok (s₁, sent))
      (hnow : Core.Restarted args factory e.2.now s.toCore s₁.toCore)
      (hrest : run args es s₁ = .ok s') : RestartsIn args factory (e :: es) s s'
  | later {e es s s₁ s' sent} (hstep : s.step args e = .ok (s₁, sent))
      (hrest : RestartsIn args factory es s₁ s') : RestartsIn args factory (e :: es) s s'

/-- A reboot that has been asked for is still to come, or has happened on the way. -/
theorem run_awaits_or_restarts {at_ : Time} {factory : Bool} (h : run args es s = .ok s')
    (hs : Core.Awaits at_ factory s.toCore) :
    Core.Awaits at_ factory s'.toCore ∨ RestartsIn args factory es s s' := by
  induction es generalizing s with
  | nil =>
    cases h
    exact .inl hs
  | cons e es ih =>
    obtain ⟨s₁, sent, hstep, hrest⟩ := run_cons_eq_ok h
    rcases hs.change (step_change hstep) with hawaits | hnow
    · exact (ih hrest hawaits).imp_right (.later hstep)
    · exact .inr (.first hstep hnow hrest)

/-! ### A reboot request -/

/-- The command of a reboot request. -/
def rebootCmd (factory : Bool) : ℕ :=
  if factory then CMD_FACTORY_RESET else CMD_REBOOT

/-- A request that is heard and not made to fail is carried out. -/
theorem handleDatagram_reboot {data : List UInt8} {addr : Endpoint} {r : Readings Time}
    {f : CommandFrame} {factory : Bool} {sent : Sent} (hheard : s.silenceUntil ≤ r.now)
    (hparse : CommandFrame.parse data = .ok f) (htype : f.cmdType = REQ)
    (hcmd : f.cmdId = rebootCmd factory) (hfail : s.failCmds f.cmdId = none)
    (h : s.handleDatagram args .cmd data addr r = .ok (s', sent)) :
    ∃ s₁ push, s.doReboot args factory r = .ok (s₁, push) ∧ s'.toCore = s₁.toCore := by
  have htakes : takes .cmd f.cmdId = true := by
    rw [hcmd]
    cases factory <;> decide
  have hdispatch : s.dispatch args f addr r = s.dispatchReboot args factory r := by
    unfold dispatch
    rw [hcmd]
    cases factory <;> rfl
  rw [handleDatagram, if_neg (not_lt.mpr hheard), hparse] at h
  dsimp only at h
  rw [if_neg (not_not.mpr htype), if_neg (by simp), if_neg (by simp [htakes]),
    answer_eq_dispatch hfail, hdispatch] at h
  split at h
  · cases h
  · rename_i o ho
    unfold dispatchReboot at ho
    split at ho
    · cases ho
    · rename_i s₁ push hreboot
      refine ⟨s₁, push, hreboot, ?_⟩
      rw [(acknowledge_eq_ok h).1, (of_eq_ok ho).1]

end Run

/-- **A reboot that was asked for happens in time.**  After a 0x0200 or 0x0201 request that
is heard and for which no `fail_cmd` rule is set, in a run that raises nothing, whatever
datagrams, control lines and turns follow it: the device starts again at one of the events
until the first turn of the main loop at or after the end of the delay, and if the request was
for a factory reset, with the factory settings; requests before or after it neither postpone
nor weaken it. -/
theorem reboot_in_time [AddRightMono Time] {args : Args Time}
    {before after : List (Event Time × Readings Time)} {s₀ s s' : Sim Time}
    (hstart : s₀.rebootAt = none) (hbefore : run args before s₀ = .ok s)
    {data : List UInt8} {addr : Endpoint} {f : CommandFrame} {factory : Bool}
    (hparse : CommandFrame.parse data = .ok f) (htype : f.cmdType = REQ)
    (hcmd : f.cmdId = rebootCmd factory) (hfail : s.failCmds f.cmdId = none)
    {r r' : Readings Time} (hheard : s.silenceUntil ≤ r.now)
    (hclock : ∀ e ∈ before, e.2.now ≤ r.now) (hlate : r.now + args.rebootDelay ≤ r'.now)
    (hafter : run args ((.datagram .cmd data addr, r) :: (after ++ [(.turn, r')])) s = .ok s') :
    RestartsIn args factory ((.datagram .cmd data addr, r) :: (after ++ [(.turn, r')])) s s' := by
  have hscheduled : s.toCore.Scheduled args r.now := by
    refine run_scheduled hbefore (fun at_ hat => ?_) hclock
    rw [hstart] at hat
    cases hat
  obtain ⟨s₁, sent, hrequest, hrest⟩ := run_cons_eq_ok hafter
  obtain ⟨t, push, hreboot, hcore⟩ := handleDatagram_reboot hheard hparse htype hcmd hfail hrequest
  have hasked := s.toCore.awaits_ask (r.now + args.rebootDelay) factory
  rcases doReboot_cases hreboot with ⟨-, hwaits⟩ | ⟨-, hatOnce⟩
  · rw [← hwaits, ← hcore] at hasked
    rcases run_awaits_or_restarts hrest hasked with hwaited | hrestarts
    · -- it cannot still be awaited: the last turn leaves no reboot that is due
      obtain ⟨s₂, -, hturn⟩ := run_append_eq_ok hrest
      obtain ⟨s₃, sent', hstep, hnil⟩ := run_cons_eq_ok hturn
      cases hnil
      obtain ⟨push', hlast⟩ := step_turn_eq_ok hstep
      have htime := (hscheduled.ask le_rfl factory _ rfl).trans hlate
      exact absurd ⟨_, hwaited.rebootAt, htime⟩ (turn_not_due hlast)
    · exact .later hrequest hrestarts
  · have hrestarted := Core.restarted_restart args r.now hasked.factory
    rw [← hatOnce, ← hcore] at hrestarted
    exact .first hrequest ⟨hrestarted.powerups, hrestarted.done, hrestarted.silent,
      hrestarted.settings⟩ hrest

/-- A command line, with whole seconds as times. -/
def someArgs : Args ℕ where
  bind := ⟨192, 168, 1, 40⟩
  rebootDelay := 2
  rebootSilence := 5
  logChunkInterval := 1

/-- The simulator it starts, switched on at 0. -/
def switchedOn : Sim ℕ :=
  Sim.new someArgs { startupDelay := 3, selfcheckDelay := 1, stateDeadline := 1 } 0

/-- Readings at a time. -/
def readingsAt (now : ℕ) : Readings ℕ where
  now := now
  again := now
  nowNs := now
  localNs := now
  wallNs := now
  advertised := ⟨127, 0, 0, 1⟩
  debugSocket := true
  rebinds := true

/-- A request of the host without data. -/
def bareRequest (cmdId : UInt16) : CommandFrameSpec :=
  { seqNum := 7, cmdId := cmdId, data := [] }

/-- A reboot is asked for, then a factory reset, which does not postpone it. -/
theorem reboot_in_time_twice :
    let host : Endpoint := ⟨⟨127, 0, 0, 1⟩, 40000⟩
    let first : Event ℕ := .datagram .cmd (commandWire (bareRequest kFactoryReset)) host
    let again : Event ℕ := .datagram .cmd (commandWire (bareRequest kReboot)) host
    let es := (first, readingsAt 10) :: ([(again, readingsAt 11)] ++ [(.turn, readingsAt 12)])
    ∃ s', run someArgs es switchedOn = .ok s' ∧ RestartsIn someArgs true es switchedOn s' := by
  intro host first again es
  have hok : (run someArgs es switchedOn).toOption.isSome = true := by decide +kernel
  have hparse : CommandFrame.parse (commandWire (bareRequest kFactoryReset)) =
      .ok (CommandFrame.ofSpec (bareRequest kFactoryReset)) := by
    rw [← CommandFrame.parse_commandWire [] (Nat.zero_le _), List.append_nil]
  cases hrun : run someArgs es switchedOn with
  | error =>
    rw [hrun] at hok
    cases hok
  | ok s' =>
    have hbefore : run someArgs [] switchedOn = .ok switchedOn := rfl
    have hstart : switchedOn.rebootAt = none := rfl
    exact ⟨s', rfl, reboot_in_time hstart hbefore hparse rfl rfl rfl (Nat.zero_le 10) (by simp)
      (Nat.le_refl 12) hrun⟩

/-- **Every setting that can be read can be written back.**  The simulator starts at an
address other than 192.168.1.1 whose last octet is neither 0 nor 255.  After any run of
commands, reboots, factory resets and control lines, unless the device is in ERROR or
UPGRADE: what an inquiry of settings answers, a write of the same entries accepts with
success, and it changes nothing in the table. -/
theorem settings_written_back {args : Args Time} (hbind : IsOwnHost args.lidarIp)
    (model : DeviceModel Time) (zero : Time) {es : List (Event Time × Readings Time)}
    {s : Sim Time} (hrun : run args es (Sim.new args model zero) = .ok s)
    (hworking : s.model.Working) {keys : List UInt16}
    (hkeys : ∀ key ∈ keys, s.model.Readable key.toNat) (nowNs : ℤ) (now : Time) :
    ∃ kvs : List KeyValue, kvs.map KeyValue.key = keys ∧
      s.model.inquire (keys.map UInt16.toNat) nowNs = .ok (RET_OK, pairs kvs) ∧
      (s.model.configure (pairs kvs) now).1 = (RET_OK, 0) ∧
      (s.model.configure (pairs kvs) now).2.settings = s.model.settings := by
  obtain ⟨kvs, hkvs, hvalues, hinquire⟩ := DeviceModel.foldlM_inquireKey nowNs RET_OK [] hkeys
  have hget : ∀ e ∈ pairs kvs, s.model.settings.get e.1 = some e.2 := by
    intro e he
    obtain ⟨kv, hkv, rfl⟩ := List.mem_map.mp he
    exact hvalues kv hkv
  have hsupported : ∀ e ∈ pairs kvs, s.model.unsupported e.1 = false := by
    intro e he
    obtain ⟨kv, hkv, rfl⟩ := List.mem_map.mp he
    refine (hkeys kv.key ?_).2.1
    rw [← hkvs]
    exact List.mem_map_of_mem hkv
  have hconfigure := DeviceModel.configure_of_get
    (run_acceptable hrun (Core.acceptable_new hbind model zero)).settings hworking hget
    hsupported now
  refine ⟨kvs, hkvs, hinquire, ?_, ?_⟩
  · rw [hconfigure]
  · rw [hconfigure, DeviceModel.followTarget_settings]

/-- The data type of the points and the target, after two turns. -/
theorem settings_written_back_switchedOn :
    ∃ s, run someArgs [(.turn, readingsAt 1), (.turn, readingsAt 4)] switchedOn = .ok s ∧
      ∃ kvs : List KeyValue, kvs.map KeyValue.key = [0x0000, 0x001A] ∧
        s.model.inquire [0x0000, 0x001A] 0 = .ok (RET_OK, pairs kvs) ∧
        (s.model.configure (pairs kvs) 5).1 = (RET_OK, 0) ∧
        (s.model.configure (pairs kvs) 5).2.settings = s.model.settings := by
  have hbind : IsOwnHost someArgs.lidarIp := by
    unfold IsOwnHost
    decide
  have hok : ((run someArgs [(.turn, readingsAt 1), (.turn, readingsAt 4)]
      switchedOn).toOption.any fun s => decide (s.model.workState = .kSampling) &&
        ([0x0000, 0x001A] : List UInt16).all fun key => decide (WRITABLE_LEN key.toNat ≠ none ∧
          s.model.unsupported key.toNat = false ∧
          s.model.inquireOverrides key.toNat = none)) = true := by
    decide
  cases hrun : run someArgs [(.turn, readingsAt 1), (.turn, readingsAt 4)] switchedOn with
  | error =>
    rw [hrun] at hok
    cases hok
  | ok s =>
    rw [hrun] at hok
    simp only [Except.toOption, Option.any_some, Bool.and_eq_true, List.all_eq_true,
      decide_eq_true_eq] at hok
    obtain ⟨hstate, hkeys⟩ := hok
    have hworking : s.model.Working := by simp [DeviceModel.Working, hstate]
    exact ⟨s, rfl, settings_written_back hbind _ 0 hrun hworking hkeys 0 5⟩

end Sim

end Simulator

end LivoxMid360
