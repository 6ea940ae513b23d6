import LivoxMid360.Device.Settings
import LivoxMid360.PythonEncode
import LivoxMid360.Simulator.WorkState

/-!
# The state push of the simulated LiDAR

`push_payload` sends most of the parameter table once a second: the pushed keys in a fixed
order, without those of `push_omit`, each with the value `read_key` has for it.  `inquire`
answers single keys from the same table and leaves out the ones the firmware lacks.

`read_key` returns `None` for an unsupported key, and `--unsupported-keys` takes every
writable key (`parseKeyList`), the pushed ones included.  `inquire` looks for `None`;
`push_payload` does not, and `encode_kv_list` takes its length.  So a push is a payload that
both parsers read, with the values `inquire` answers, exactly when every pushed key that is
unsupported is also omitted (`push_decodable_iff`); otherwise there is a `TypeError`
(`unsupported_key_breaks_push`).

A value of a status field that does not fit its field of the table makes `struct.pack` raise
for every key that is not a setting; `InRange` says that they fit.
-/

namespace LivoxMid360

open LittleEndian

namespace Python

/-- `parse_info_push`. -/
def parseInfoPush (d : List UInt8) : Except Exn (List (ℕ × List UInt8)) :=
  match unpackFrom [.H, .H] d 0 with
  | .ok [.int n, .int _] => parseKvList (d.drop 4) n
  | .ok _ => .error .structError
  | .error x => .error x

/-- `bytes([n])`. -/
def bytesOf (n : ℤ) : Except Exn (List UInt8) :=
  if 0 ≤ n ∧ n < 256 then .ok [UInt8.ofNat n.toNat] else raise "bytes must be in range(0, 256)"

end Python

namespace Simulator

open Python (Exn PushExn pack packWord packSigned bytesOf encodeKvList)

/-! ## `--unsupported-keys` -/

/-- The text of `--unsupported-keys`: the name of a firmware, or a list of integers. -/
inductive KeyListText where
  | mid360
  | keys (ks : List ℤ)

/-- `sorted(MID360_UNSUPPORTED_KEYS)`. -/
def MID360_UNSUPPORTED_KEYS : List ℤ :=
  [KEY_SPEED_MODE, KEY_TIME_FILTER, KEY_PC_FREQ_MOD, KEY_IMU_SENSOR_CFG]

/-- `k not in WRITABLE_LEN`. -/
def notWritable (k : ℤ) : Bool :=
  k < 0 ∨ WRITABLE_LEN k.toNat = none

/-- `hex`. -/
def hex (k : ℤ) : String :=
  (if k < 0 then "-0x" else "0x") ++ String.ofList (Nat.toDigits 16 k.natAbs)

/-- `parse_key_list`: the keys, or the text of the `ArgumentTypeError`. -/
def parseKeyList : KeyListText → Except String (List ℤ)
  | .mid360 => .ok MID360_UNSUPPORTED_KEYS
  | .keys ks =>
    let bad := ks.filter notWritable
    if bad ≠ [] then .error ("not a writable key: " ++ ", ".intercalate (bad.map hex))
    else .ok ks

namespace DeviceModel

variable {Time : Type}

/-! ## Reading -/

/-- `bytes(version)`. -/
def versionBytes (v : UInt8 × UInt8 × UInt8 × UInt8) : List UInt8 :=
  [v.1, v.2.1, v.2.2.1, v.2.2.2]

/-- The dictionary `ro` that `read_key` builds. -/
def ro (m : DeviceModel Time) (nowNs : ℤ) : Except Exn (List (ℕ × List UInt8)) := do
  let coreTemp ← packSigned 4 m.coreTemp
  let powerupCnt ← packWord 4 m.powerupCnt
  let localTime ← packWord 8 nowNs
  let lastSync ← packWord 8 m.clock.lastSyncNs
  let offset ← packSigned 8 m.clock.offsetNs
  let syncType ← bytesOf m.clock.syncType
  let diagStatus ← packWord 2 m.diagStatus
  let hms ← pack (List.replicate 8 .I) (m.hms.map .int)
  return [(KEY_SN, padded 16 m.sn),
    (KEY_PRODUCT_INFO, padded 64 m.productInfo),
    (KEY_VERSION_APP, versionBytes m.versionApp),
    (KEY_VERSION_LOADER, versionBytes m.versionLoader),
    (KEY_VERSION_HW, versionBytes m.versionHardware),
    (KEY_MAC, [2, 0, 0, 0, 0, 1]),
    (KEY_CUR_WORK_STATE, [m.workState.raw]),
    (KEY_CORE_TEMP, coreTemp),
    (KEY_POWERUP_CNT, powerupCnt),
    (KEY_LOCAL_TIME, localTime),
    (KEY_LAST_SYNC_TIME, lastSync),
    (KEY_TIME_OFFSET, offset.take (if m.badTimeOffset then 4 else 8)),
    (KEY_TIME_SYNC_TYPE, syncType),
    (KEY_DIAG_STATUS, diagStatus),
    (KEY_FW_TYPE, [1]),
    (KEY_HMS, hms)]

/-- `read_key`. -/
def readKey (m : DeviceModel Time) (key : ℕ) (nowNs : ℤ) : Except Exn (Option (List UInt8)) :=
  if m.unsupported key then .ok none
  else match m.settings.get key with
  | some v => .ok (some v)
  | none =>
    -- the whole dictionary is built for one key, so any field that does not fit raises
    match m.ro nowNs with
    | .error x => .error x
    | .ok table => .ok (table.lookup key)

/-- One turn of the loop in `inquire`. -/
def inquireKey (m : DeviceModel Time) (nowNs : ℤ) (answer : RetCode × List (ℕ × List UInt8))
    (key : ℕ) : Except Exn (RetCode × List (ℕ × List UInt8)) :=
  match m.inquireOverrides key with
  | some .omit => .ok answer
  | some .unsupported => .ok (RET_PARAM_NOT_SUPPORT, answer.2)
  | some (.value v) =>
    -- the real value is read first, and then replaced
    match m.readKey key nowNs with
    | .error x => .error x
    | .ok _ => .ok (answer.1, answer.2 ++ [(key, v)])
  | none =>
    match m.readKey key nowNs with
    | .error x => .error x
    | .ok none => .ok (RET_PARAM_NOT_SUPPORT, answer.2)
    | .ok (some v) => .ok (answer.1, answer.2 ++ [(key, v)])

/-- `inquire`. -/
def inquire (m : DeviceModel Time) (keys : List ℕ) (nowNs : ℤ) :
    Except Exn (RetCode × List (ℕ × List UInt8)) :=
  keys.foldlM (m.inquireKey nowNs) (RET_OK, [])

/-! ## Pushing -/

/-- The keys of a push, in the order of `push_payload`. -/
def pushedKeys : List ℕ :=
  [KEY_PCL_DATA_TYPE, KEY_PATTERN_MODE, KEY_LIDAR_IPCFG, KEY_STATE_HOST, KEY_PCL_HOST,
    KEY_IMU_HOST, KEY_INSTALL_ATTITUDE, KEY_FOV0, KEY_FOV1, KEY_FOV_EN, KEY_DETECT_MODE,
    KEY_FUNC_IO, KEY_WORK_TGT_MODE, KEY_IMU_EN, KEY_SN, KEY_PRODUCT_INFO, KEY_VERSION_APP,
    KEY_VERSION_LOADER, KEY_VERSION_HW, KEY_MAC, KEY_CUR_WORK_STATE, KEY_CORE_TEMP,
    KEY_POWERUP_CNT, KEY_LOCAL_TIME, KEY_LAST_SYNC_TIME, KEY_TIME_OFFSET, KEY_TIME_SYNC_TYPE,
    KEY_DIAG_STATUS, KEY_FW_TYPE, KEY_HMS]

/-- `[(k, self.read_key(k, now_ns)) for k in keys]`. -/
def readAll (m : DeviceModel Time) (nowNs : ℤ) :
    List ℕ → Except Exn (List (ℕ × Option (List UInt8)))
  | [] => .ok []
  | k :: ks =>
    match m.readKey k nowNs with
    | .error x => .error x
    | .ok v =>
      match m.readAll nowNs ks with
      | .error x => .error x
      | .ok kvs => .ok ((k, v) :: kvs)

/-- `push_payload`. -/
def pushPayload (m : DeviceModel Time) (nowNs : ℤ) : Except PushExn (List UInt8) :=
  match m.readAll nowNs (pushedKeys.filter (· ∉ m.pushOmit)) with
  | .error x => .error (.exn x)
  | .ok kvs =>
    match pack [.H, .H] [.int kvs.length, .int 0] with
    | .error x => .error (.exn x)
    | .ok head =>
      match encodeKvList kvs with
      | .error x => .error x
      | .ok body => .ok (head ++ body)

/-! ## Status fields that fit -/

/-- The status fields, and the time, are within the ranges of their fields on the wire. -/
structure InRange (m : DeviceModel Time) (nowNs : ℤ) : Prop where
  coreTemp : -0x80000000 ≤ m.coreTemp ∧ m.coreTemp < 0x80000000
  powerupCnt : 0 ≤ m.powerupCnt ∧ m.powerupCnt < 0x100000000
  localTime : 0 ≤ nowNs ∧ nowNs < 0x10000000000000000
  lastSync : 0 ≤ m.clock.lastSyncNs ∧ m.clock.lastSyncNs < 0x10000000000000000
  offset : -0x8000000000000000 ≤ m.clock.offsetNs ∧ m.clock.offsetNs < 0x8000000000000000
  syncType : 0 ≤ m.clock.syncType ∧ m.clock.syncType < 256
  diagStatus : 0 ≤ m.diagStatus ∧ m.diagStatus < 0x10000
  hmsCount : m.hms.length = 8
  hms : ∀ code ∈ m.hms, 0 ≤ code ∧ code < 0x100000000

/-- The read-only keys and the lengths of their values. -/
def readOnlyLengths (badTimeOffset : Bool) : List (ℕ × ℕ) :=
  [(KEY_SN, 16), (KEY_PRODUCT_INFO, 64), (KEY_VERSION_APP, 4), (KEY_VERSION_LOADER, 4),
    (KEY_VERSION_HW, 4), (KEY_MAC, 6), (KEY_CUR_WORK_STATE, 1), (KEY_CORE_TEMP, 4),
    (KEY_POWERUP_CNT, 4), (KEY_LOCAL_TIME, 8), (KEY_LAST_SYNC_TIME, 8),
    (KEY_TIME_OFFSET, if badTimeOffset then 4 else 8), (KEY_TIME_SYNC_TYPE, 1),
    (KEY_DIAG_STATUS, 2), (KEY_FW_TYPE, 1), (KEY_HMS, 32)]

variable {m : DeviceModel Time} {nowNs : ℤ}

/-- **Status fields that fit are packed**, each to the length of its key. -/
theorem InRange.ro (h : m.InRange nowNs) :
    ∃ table, m.ro nowNs = .ok table ∧
      (table.map fun e => (e.1, e.2.length)) = readOnlyLengths m.badTimeOffset := by
  obtain ⟨coreTemp, hcoreTemp, hcoreTempSize⟩ :=
    Python.packSigned_of_range 4 m.coreTemp (by have := h.coreTemp; omega)
  obtain ⟨powerupCnt, hpowerupCnt, hpowerupCntSize⟩ :=
    Python.packWord_of_range 4 m.powerupCnt (by have := h.powerupCnt; omega)
  obtain ⟨localTime, hlocalTime, hlocalTimeSize⟩ :=
    Python.packWord_of_range 8 nowNs (by have := h.localTime; omega)
  obtain ⟨lastSync, hlastSync, hlastSyncSize⟩ :=
    Python.packWord_of_range 8 m.clock.lastSyncNs (by have := h.lastSync; omega)
  obtain ⟨offset, hoffset, hoffsetSize⟩ :=
    Python.packSigned_of_range 8 m.clock.offsetNs (by have := h.offset; omega)
  obtain ⟨diagStatus, hdiagStatus, hdiagStatusSize⟩ :=
    Python.packWord_of_range 2 m.diagStatus (by have := h.diagStatus; omega)
  have hsyncType : bytesOf m.clock.syncType = .ok [UInt8.ofNat m.clock.syncType.toNat] :=
    if_pos h.syncType
  obtain ⟨hms, hhms, hhmsSize⟩ := Python.pack_words m.hms
    (fun code hcode => by have := h.hms code hcode; omega)
  rw [h.hmsCount] at hhms hhmsSize
  unfold DeviceModel.ro
  simp only [hcoreTemp, hpowerupCnt, hlocalTime, hlastSync, hoffset, hsyncType, hdiagStatus, hhms,
    bind, Except.bind, pure, Except.pure]
  refine ⟨_, rfl, ?_⟩
  have hoffsetCut : (offset.take (if m.badTimeOffset then 4 else 8)).length =
      if m.badTimeOffset then 4 else 8 := by
    rw [List.length_take, hoffsetSize]
    split_ifs <;> rfl
  simp only [List.map_cons, List.map_nil, padded_length, versionBytes,
    List.length_cons, List.length_nil, hcoreTempSize, hpowerupCntSize, hlocalTimeSize,
    hlastSyncSize, hoffsetCut, hdiagStatusSize, hhmsSize, readOnlyLengths]

/-- Every pushed key is in one of the two tables. -/
theorem pushed_length (badTimeOffset : Bool) : ∀ key ∈ pushedKeys,
    ((WRITABLE_LEN key).or ((readOnlyLengths badTimeOffset).lookup key)).any (· ≤ 64) = true := by
  cases badTimeOffset <;> decide

variable {key : ℕ}

/-- A pushed key that the firmware has is read, to a value of at most 64 bytes. -/
theorem InRange.readKey (h : m.InRange nowNs) (hkey : key ∈ pushedKeys)
    (hsupported : m.unsupported key = false) :
    ∃ v, m.readKey key nowNs = .ok (some v) ∧ v.length ≤ 64 := by
  obtain ⟨table, htable, hlengths⟩ := h.ro
  have hsetting := m.settings.lengths key
  have hlookup := lookup_map List.length table key
  have hpushed := pushed_length m.badTimeOffset key hkey
  rw [← hlengths, hlookup, ← hsetting] at hpushed
  rw [DeviceModel.readKey, if_neg (by simp [hsupported])]
  cases hget : m.settings.get key with
  | some v =>
    refine ⟨v, rfl, ?_⟩
    simpa [hget] using hpushed
  | none =>
    rw [htable]
    cases hread : table.lookup key with
    | none => simp [hget, hread] at hpushed
    | some v =>
      refine ⟨v, by dsimp only; rw [hread], ?_⟩
      simpa [hget, hread] using hpushed

/-- What the table holds for a key; empty for a key that cannot be read. -/
def valueOf (m : DeviceModel Time) (nowNs : ℤ) (key : ℕ) : List UInt8 :=
  match m.readKey key nowNs with
  | .ok (some v) => v
  | _ => []

theorem InRange.readKey_eq (h : m.InRange nowNs) (hkey : key ∈ pushedKeys)
    (hsupported : m.unsupported key = false) :
    m.readKey key nowNs = .ok (some (m.valueOf nowNs key)) ∧ (m.valueOf nowNs key).length ≤ 64 := by
  obtain ⟨v, hread, hlength⟩ := h.readKey hkey hsupported
  rw [valueOf, hread]
  exact ⟨rfl, hlength⟩

/-! ## Lists of entries -/

theorem readAll_of_readKey {keys : List ℕ} {value : ℕ → Option (List UInt8)}
    (h : ∀ key ∈ keys, m.readKey key nowNs = .ok (value key)) :
    m.readAll nowNs keys = .ok (keys.map fun key => (key, value key)) := by
  induction keys with
  | nil => rfl
  | cons key keys ih =>
    rw [readAll, h key (by simp), ih fun k hk => h k (by simp [hk])]
    rfl

/-- Every key of a list that was read is in the result, with what was read for it. -/
theorem mem_of_readAll {keys : List ℕ} {kvs : List (ℕ × Option (List UInt8))}
    (h : m.readAll nowNs keys = .ok kvs) (hkey : key ∈ keys) {v : Option (List UInt8)}
    (hv : m.readKey key nowNs = .ok v) : (key, v) ∈ kvs := by
  induction keys generalizing kvs with
  | nil => simp at hkey
  | cons k ks ih =>
    rw [readAll] at h
    cases hread : m.readKey k nowNs with
    | error => simp [hread] at h
    | ok w =>
      cases hrest : m.readAll nowNs ks with
      | error => simp [hread, hrest] at h
      | ok rest =>
        obtain rfl : (k, w) :: rest = kvs := by simpa [hread, hrest] using h
        obtain rfl | hmem := List.mem_cons.mp hkey
        · obtain rfl : w = v := Except.ok.inj (hread.symm.trans hv)
          exact List.mem_cons_self
        · exact List.mem_cons_of_mem _ (ih hrest hmem)

end DeviceModel

end Simulator

namespace Python

/-- `None` cannot be encoded. -/
theorem ne_none_of_encodeKvList {kvs : List (ℕ × Option (List UInt8))} {body : List UInt8}
    (h : encodeKvList kvs = .ok body) : ∀ e ∈ kvs, e.2 ≠ none := by
  induction kvs generalizing body with
  | nil => simp
  | cons e kvs ih =>
    obtain ⟨k, v⟩ := e
    cases v with
    | none => simp [encodeKvList] at h
    | some v =>
      cases hhead : pack [.H, .H] [.int k, .int v.length] with
      | error => simp [encodeKvList, hhead] at h
      | ok =>
        cases hrest : encodeKvList kvs with
        | error => simp [encodeKvList, hhead, hrest] at h
        | ok =>
          intro e he
          obtain rfl | he := List.mem_cons.mp he
          · simp
          · exact ih hrest e he

/-- **What the C++ parser accepts, the Python parser accepts** with the same entries. -/
theorem parseInfoPush_of_ok {d : List UInt8} {kvs : List KeyValue}
    (h : LivoxMid360.parseInfoPush d = some (.ok kvs)) :
    parseInfoPush d = .ok (kvs.map fun kv => (kv.key.toNat, kv.value)) := by
  unfold LivoxMid360.parseInfoPush at h
  split_ifs at h with hshort
  · exact absurd (Option.some.inj h) (by simp)
  have hcount : (readLe UInt16 d 0).toNat ≤ kKeyValueVectorMaxSize := by
    have := (readLe UInt16 d 0).toNat_lt
    rw [kKeyValueVectorMaxSize]
    omega
  obtain ⟨r, hr, hagree⟩ := parseKvList_agree (d.drop 4) (readLe UInt16 d 0).toNat hcount
  obtain rfl : r = .ok kvs := Option.some.inj (hr.symm.trans h)
  rw [parseInfoPush, unpackFrom_eq (Nat.not_lt.mp hshort)]
  simp only [unpack, Code.size, decode_H]
  cases hparse : parseKvList (d.drop 4) (readLe UInt16 d 0).toNat with
  | error =>
    rw [hparse] at hagree
    exact hagree.elim
  | ok =>
    rw [hparse] at hagree
    exact congrArg Except.ok hagree

end Python

namespace Simulator.DeviceModel

open Python (PushExn encodeKvList)

variable {Time : Type}

/-! ## When a push decodes -/

/-- The push of a model is read by both parsers, lists the pushed keys that are neither
omitted nor unsupported in their order, and has the values `inquire` answers. -/
def Decodable (m : DeviceModel Time) (nowNs : ℤ) : Prop :=
  ∃ payload kvs, m.pushPayload nowNs = .ok payload ∧
    parseInfoPush payload = some (.ok kvs) ∧
    Python.parseInfoPush payload = .ok (kvs.map fun kv => (kv.key.toNat, kv.value)) ∧
    (kvs.map fun kv => kv.key.toNat) =
      pushedKeys.filter (fun key => key ∉ m.pushOmit ∧ m.unsupported key = false) ∧
    ∀ kv ∈ kvs, m.inquire [kv.key.toNat] nowNs = .ok (RET_OK, [(kv.key.toNat, kv.value)])

variable {m : DeviceModel Time} {nowNs : ℤ}

/-- A key that is read is answered. -/
theorem inquire_of_readKey {key : ℕ} (hrule : m.inquireOverrides key = none) {v : List UInt8}
    (h : m.readKey key nowNs = .ok (some v)) :
    m.inquire [key] nowNs = .ok (RET_OK, [(key, v)]) := by
  have hturn : m.inquireKey nowNs (RET_OK, []) key = .ok (RET_OK, [(key, v)]) := by
    rw [inquireKey, hrule]
    dsimp only
    rw [h]
    rfl
  rw [inquire, List.foldlM_cons, hturn]
  rfl

/-- Pushed keys fit into sixteen bits. -/
theorem pushedKeys_lt : ∀ key ∈ pushedKeys, (UInt16.ofNat key).toNat = key := by
  decide

/-- The entries of a push whose keys can all be read. -/
def entries (m : DeviceModel Time) (nowNs : ℤ) : List KeyValue :=
  (pushedKeys.filter (· ∉ m.pushOmit)).map fun key => ⟨UInt16.ofNat key, m.valueOf nowNs key⟩

theorem entries_length_lt (m : DeviceModel Time) (nowNs : ℤ) :
    (m.entries nowNs).length < 0x10000 := by
  rw [entries, List.length_map]
  exact (List.length_filter_le ..).trans_lt (by decide)

/-- What the entries have instead of the bytes of their keys. -/
theorem map_entries {α : Type} (m : DeviceModel Time) (nowNs : ℤ) (f : ℕ → List UInt8 → α) :
    ((m.entries nowNs).map fun kv => f kv.key.toNat kv.value) =
      (pushedKeys.filter (· ∉ m.pushOmit)).map fun key => f key (m.valueOf nowNs key) := by
  rw [entries, List.map_map]
  refine List.map_congr_left fun key hkey => ?_
  rw [Function.comp_apply, pushedKeys_lt key (List.mem_of_mem_filter hkey)]

/-- The payload of a push whose keys can all be read. -/
theorem pushPayload_eq (h : ∀ key ∈ pushedKeys.filter (· ∉ m.pushOmit),
      m.readKey key nowNs = .ok (some (m.valueOf nowNs key)) ∧
        (m.valueOf nowNs key).length ≤ 64) :
    m.pushPayload nowNs = .ok (encodeParamConfigRequest (m.entries nowNs)) ∧
      ∀ kv ∈ m.entries nowNs, kv.value.length < 0x10000 := by
  have hvalues : ∀ kv ∈ m.entries nowNs, kv.value.length < 0x10000 := by
    intro kv hkv
    obtain ⟨key, hkey, rfl⟩ := List.mem_map.mp hkv
    exact (h key hkey).2.trans_lt (by decide)
  have hread : m.readAll nowNs (pushedKeys.filter (· ∉ m.pushOmit)) =
      .ok ((m.entries nowNs).map fun kv => (kv.key.toNat, some kv.value)) := by
    rw [map_entries m nowNs fun key value => (key, some value)]
    exact readAll_of_readKey fun key hkey => (h key hkey).1
  have hbody : encodeKvList ((m.entries nowNs).map fun kv => (kv.key.toNat, some kv.value)) =
      .ok ((m.entries nowNs).flatMap KeyValue.bytes) := by
    have hpairs := Python.encodeKvList_pairs (m.entries nowNs)
    rwa [List.map_map, if_pos hvalues] at hpairs
  refine ⟨?_, hvalues⟩
  rw [pushPayload, hread]
  dsimp only
  rw [List.length_map, Python.pack_count, if_pos (m.entries_length_lt nowNs)]
  dsimp only
  rw [hbody, encodeParamConfigRequest_eq]
  simp

/-- **With the unsupported keys left out**, the push decodes. -/
theorem InRange.decodable (h : m.InRange nowNs) (hrules : ∀ key, m.inquireOverrides key = none)
    (homit : ∀ key ∈ pushedKeys, m.unsupported key = true → key ∈ m.pushOmit) :
    m.Decodable nowNs := by
  have hsupported : ∀ key ∈ pushedKeys, key ∉ m.pushOmit → m.unsupported key = false := by
    intro key hkey hsent
    by_contra hunsupported
    exact hsent (homit key hkey (by simpa using hunsupported))
  have hkeys : ∀ key ∈ pushedKeys.filter (· ∉ m.pushOmit),
      m.readKey key nowNs = .ok (some (m.valueOf nowNs key)) ∧
        (m.valueOf nowNs key).length ≤ 64 := by
    intro key hkey
    obtain ⟨hpushed, hsent⟩ := List.mem_filter.mp hkey
    exact h.readKey_eq hpushed (hsupported key hpushed (by simpa using hsent))
  obtain ⟨hpayload, hvalues⟩ := pushPayload_eq hkeys
  have hparse := parseInfoPush_encodeParamConfigRequest (m.entries_length_lt nowNs) hvalues
  refine ⟨_, m.entries nowNs, hpayload, hparse, Python.parseInfoPush_of_ok hparse, ?_, ?_⟩
  · rw [map_entries m nowNs fun key _ => key, List.map_id']
    refine List.filter_congr fun key hkey => ?_
    by_cases hsent : key ∈ m.pushOmit
    · simp [hsent]
    · simp [hsent, hsupported key hkey hsent]
  · intro kv hkv
    obtain ⟨key, hkey, rfl⟩ := List.mem_map.mp hkv
    dsimp only
    rw [pushedKeys_lt key (List.mem_of_mem_filter hkey)]
    exact inquire_of_readKey (hrules key) (hkeys key hkey).1

/-- Behind a payload stands a list of entries that has been read and encoded. -/
theorem readAll_of_pushPayload {payload : List UInt8} (h : m.pushPayload nowNs = .ok payload) :
    ∃ kvs body, m.readAll nowNs (pushedKeys.filter (· ∉ m.pushOmit)) = .ok kvs ∧
      encodeKvList kvs = .ok body := by
  unfold pushPayload at h
  split at h
  · cases h
  rename_i kvs hread
  split at h
  · cases h
  split at h
  · cases h
  rename_i body hbody
  exact ⟨kvs, body, hread, hbody⟩

/-- **An unsupported key that is not left out** cannot be pushed. -/
theorem Decodable.omitted (h : m.Decodable nowNs) {key : ℕ} (hkey : key ∈ pushedKeys)
    (hunsupported : m.unsupported key = true) : key ∈ m.pushOmit := by
  obtain ⟨payload, -, hpayload, -⟩ := h
  obtain ⟨kvs, body, hread, hbody⟩ := readAll_of_pushPayload hpayload
  by_contra homit
  have hsent : key ∈ pushedKeys.filter (· ∉ m.pushOmit) :=
    List.mem_filter.mpr ⟨hkey, by simpa using homit⟩
  have hnone : m.readKey key nowNs = .ok none := if_pos hunsupported
  exact Python.ne_none_of_encodeKvList hbody _ (mem_of_readAll hread hsent hnone) rfl

/-! ## The device a host inquires -/

/-- With status fields that fit, reading a key raises nothing. -/
theorem InRange.readKey_ok (h : m.InRange nowNs) (key : ℕ) : ∃ v, m.readKey key nowNs = .ok v := by
  obtain ⟨table, htable, -⟩ := h.ro
  unfold DeviceModel.readKey
  split_ifs
  · exact ⟨none, rfl⟩
  · cases m.settings.get key with
    | some v => exact ⟨some v, rfl⟩
    | none => exact ⟨table.lookup key, by rw [htable]⟩

/-- The device as a host sees it through `inquire`. -/
def inquired (m : DeviceModel Time) : InquiredModel where
  inquireOverrides key := m.inquireOverrides key.toNat
  readKey key nowNs := (m.readKey key.toNat nowNs.toNat).toOption.join

/-- The answer of the abstract model in the types of the simulator. -/
def answerOf (answer : RetCode × List KeyValue) : RetCode × List (ℕ × List UInt8) :=
  (answer.1, answer.2.map fun kv => (kv.key.toNat, kv.value))

/-- One turn of the loop, for every answer so far. -/
theorem inquireKey_eq_inquired {nowNs : UInt64} (h : m.InRange nowNs.toNat)
    (answer : RetCode × List KeyValue) (key : UInt16) :
    m.inquireKey nowNs.toNat (answerOf answer) key.toNat =
      .ok (answerOf (m.inquired.inquireKey nowNs answer key)) := by
  obtain ⟨v, hread⟩ := h.readKey_ok key.toNat
  have hkey : m.inquired.readKey key nowNs = v := by
    change (m.readKey key.toNat nowNs.toNat).toOption.join = v
    rw [hread]
    rfl
  have hrule : m.inquired.inquireOverrides key = m.inquireOverrides key.toNat := rfl
  unfold DeviceModel.inquireKey InquiredModel.inquireKey InquiredModel.value
  rw [hrule, hkey, hread]
  cases m.inquireOverrides key.toNat with
  | none =>
    cases v with
    | none => rfl
    | some => simp [answerOf]
  | some rule =>
    cases rule with
    | «omit» => rfl
    | unsupported => rfl
    | value => simp [answerOf]

/-- **The simulator answers inquires as its abstract model does.** -/
theorem inquire_eq_inquired {nowNs : UInt64} (h : m.InRange nowNs.toNat) (keys : List UInt16) :
    m.inquire (keys.map UInt16.toNat) nowNs.toNat =
      .ok (answerOf (m.inquired.inquire keys nowNs)) := by
  have hloop : ∀ answer, (keys.map UInt16.toNat).foldlM (m.inquireKey nowNs.toNat)
      (answerOf answer) = .ok (answerOf (keys.foldl (m.inquired.inquireKey nowNs) answer)) := by
    induction keys with
    | nil => exact fun _ => rfl
    | cons key keys ih =>
      intro answer
      rw [List.map_cons, List.foldlM_cons, inquireKey_eq_inquired h]
      exact ih _
  exact hloop (.kSuccess, [])

/-! ## Calls leave the rest of the device alone -/

/-- The two models differ in their settings and in the work-state machine at most. -/
def SameDevice (m m' : DeviceModel Time) : Prop :=
  m' = { m with
    settings := m'.settings
    workState := m'.workState
    stateDeadline := m'.stateDeadline
    onState := m'.onState }

variable {m' : DeviceModel Time}

theorem SameDevice.trans {m'' : DeviceModel Time} (h : SameDevice m m') (h' : SameDevice m' m'') :
    SameDevice m m'' := by
  unfold SameDevice at *
  rw [h', h]

theorem SameDevice.setState (m : DeviceModel Time) (s : WorkState) :
    SameDevice m (m.setState s) := by
  unfold SameDevice DeviceModel.setState
  dsimp only
  split_ifs <;> rfl

section Calls

variable [Add Time] (now : Time)

theorem SameDevice.enterTimed (m : DeviceModel Time) (s : WorkState) :
    SameDevice m (m.enterTimed s now) :=
  (SameDevice.setState m s).trans rfl

theorem SameDevice.followTarget (m : DeviceModel Time) : SameDevice m (m.followTarget now) := by
  obtain ⟨-, -, heq⟩ | ⟨-, -, heq⟩ | ⟨-, -, heq⟩ | ⟨-, -, heq⟩ | ⟨-, heq⟩ :=
    m.followTarget_cases now
  · exact heq ▸ SameDevice.enterTimed now m _
  · exact heq ▸ SameDevice.setState m _
  · exact heq ▸ (SameDevice.setState m _).trans (SameDevice.setState _ _)
  · exact heq ▸ SameDevice.setState m _
  · rw [heq]
    rfl

theorem SameDevice.foldl_apply (kvs : List (ℕ × List UInt8)) (ret : RetCode)
    (m : DeviceModel Time) : SameDevice m (kvs.foldl (apply now) (ret, m)).2 := by
  induction kvs generalizing ret m with
  | nil => rfl
  | cons e kvs ih =>
    have hstep : SameDevice m (apply now (ret, m) e).2 := by
      obtain ⟨-, hsame | ⟨-, -, hrestart⟩⟩ := apply_cases now ret m e
      · rw [hsame]
        rfl
      · have hstore : SameDevice m (m.store e) := rfl
        rw [hrestart]
        exact hstore.trans (SameDevice.enterTimed now _ _)
    exact hstep.trans (ih (apply now (ret, m) e).1 (apply now (ret, m) e).2)

theorem SameDevice.configure (m : DeviceModel Time) (kvs : List (ℕ × List UInt8)) :
    SameDevice m (m.configure kvs now).2 := by
  obtain ⟨error, heq⟩ | ⟨-, -, heq⟩ := m.configure_cases now kvs
  · rw [heq]
    rfl
  · rw [heq]
    exact (SameDevice.foldl_apply now kvs RET_OK m).trans (SameDevice.followTarget now _)

variable [LE Time] [DecidableLE Time]

theorem SameDevice.tick (m : DeviceModel Time) : SameDevice m (m.tick now) := by
  obtain ⟨-, -, heq⟩ | ⟨-, -, heq⟩ | ⟨-, heq⟩ := m.tick_cases now
  · exact heq ▸ (SameDevice.setState m _).trans (SameDevice.followTarget now _)
  · exact heq ▸ (SameDevice.setState m _).trans (SameDevice.followTarget now _)
  · exact heq ▸ SameDevice.followTarget now m

/-- **Calls change the settings and the work state only.** -/
theorem SameDevice.foldl_exec (m : DeviceModel Time) (calls : List (Call Time)) :
    SameDevice m (calls.foldl exec m) := by
  induction calls generalizing m with
  | nil => rfl
  | cons call calls ih =>
    have hstep : SameDevice m (m.exec call) := by
      cases call with
      | configure kvs now => exact SameDevice.configure now m kvs
      | tick now => exact SameDevice.tick now m
    exact hstep.trans (ih (m.exec call))

end Calls

/-! ## The pushes of a device -/

theorem SameDevice.inRange (h : SameDevice m m') (hrange : m.InRange nowNs) : m'.InRange nowNs := by
  rw [SameDevice] at h
  rw [h]
  exact ⟨hrange.coreTemp, hrange.powerupCnt, hrange.localTime, hrange.lastSync, hrange.offset,
    hrange.syncType, hrange.diagStatus, hrange.hmsCount, hrange.hms⟩

theorem SameDevice.pushOmit (h : SameDevice m m') : m'.pushOmit = m.pushOmit := by
  rw [SameDevice] at h
  rw [h]

theorem SameDevice.inquireOverrides (h : SameDevice m m') :
    m'.inquireOverrides = m.inquireOverrides := by
  rw [SameDevice] at h
  rw [h]

theorem SameDevice.unsupported (h : SameDevice m m') (key : ℕ) :
    m'.unsupported key = m.unsupported key := by
  rw [SameDevice] at h
  rw [h]
  rfl

/-- **When the pushes decode.**  After any calls of `configure` and `tick`, a device without
`inquire_overrides` whose status fields fit pushes a payload that both parsers read, with
exactly the pushed keys that are neither omitted nor unsupported and the values `inquire`
answers, if and only if every pushed key that it does not support is omitted. -/
theorem push_decodable_iff [Add Time] [LE Time] [DecidableLE Time] (m : DeviceModel Time)
    (calls : List (Call Time)) {nowNs : ℤ} (hrange : m.InRange nowNs)
    (hrules : ∀ key, m.inquireOverrides key = none) :
    (calls.foldl exec m).Decodable nowNs ↔
      ∀ key ∈ pushedKeys, m.unsupported key = true → key ∈ m.pushOmit := by
  have hsame := SameDevice.foldl_exec m calls
  constructor
  · intro hdecodable key hkey hunsupported
    rw [← hsame.pushOmit]
    exact hdecodable.omitted hkey ((hsame.unsupported key).trans hunsupported)
  · intro hcondition
    refine (hsame.inRange hrange).decodable (fun key => hsame.inquireOverrides ▸ hrules key) ?_
    intro key hkey hunsupported
    rw [hsame.pushOmit]
    exact hcondition key hkey ((hsame.unsupported key).symm.trans hunsupported)

/-- A device whose firmware lacks `detect_mode`, a pushed key. -/
def lacksDetectMode (pushOmit : Finset ℕ) : DeviceModel ℕ where
  startupDelay := 3
  selfcheckDelay := 1
  stateDeadline := 0
  unsupportedKeys := {KEY_DETECT_MODE}
  pushOmit := pushOmit

/-- It can push when the key is omitted. -/
theorem push_decodable_iff_omitted :
    ([Call.tick 1].foldl exec (lacksDetectMode {KEY_DETECT_MODE})).Decodable 7 :=
  (push_decodable_iff _ [Call.tick 1] ⟨by decide, by decide, by decide, by decide, by decide,
    by decide, by decide, by decide, by decide⟩ fun _ => rfl).mpr (by decide)

/-- **An unsupported key breaks the push.**  `--unsupported-keys 0x0018` is accepted, and the
push of such a device raises a `TypeError`. -/
theorem unsupported_key_breaks_push :
    parseKeyList (.keys [0x0018]) = .ok [0x0018] ∧
      (lacksDetectMode ∅).pushPayload 7 = .error .typeError ∧
      ¬(lacksDetectMode ∅).Decodable 7 := by
  have hraises : (lacksDetectMode ∅).pushPayload 7 = .error .typeError := by decide
  refine ⟨by decide, hraises, ?_⟩
  rintro ⟨payload, -, hpayload, -⟩
  rw [hraises] at hpayload
  cases hpayload

end Simulator.DeviceModel

end LivoxMid360
