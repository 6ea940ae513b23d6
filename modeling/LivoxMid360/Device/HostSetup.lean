import LivoxMid360.Config

/-!
# The host setup a reconnect replays

`Device::configure` folds every acknowledged key list into the stored `HostSetup`
(`absorb` in `device.cpp`), and every reconnect attempt sends the stored setup
again with `apply_host_setup`.  Between the two a value is decoded, kept in typed
form and encoded.

The point of view is that of one key.  `HostSetup.slot` is what the stored setup
would send for it; `slot_absorbKeyValue` says that an acknowledged entry replaces
exactly the slot of its own key, by its own bytes, and only when the decoder of the
key accepts them.  Everything else is the fold of that step.

* `reconnect_restores` — **the replayed request carries the last accepted value of
  every key**, or what the initial setup had; the host addresses and ports are
  untouched, no key occurs twice, and the views are disjoint windows of the buffer.
* `replay_sent_iff` — whether the replay is sent at all.  The checks of
  `apply_host_setup` are stricter than the decoders: a FOV window decodes whatever
  its angles are.  After acknowledged calls the setup still passes exactly when
  the last window written with each of the two keys is in range.
* `out_of_range_window_blocks` — one acknowledged window with a yaw of 400 degrees
  and no later one: the replay is refused before anything is sent.
-/

namespace LivoxMid360

open LittleEndian

/-! ## Absorbing an acknowledged request -/

/-- The keys `absorb` has a case for. -/
def absorbedKeys : List Key :=
  [.kPclDataType, .kPatternMode, .kFovCfg0, .kFovCfg1, .kFovCfgEn, .kImuDataEn, .kDetectMode,
    .kTimeFilter, .kImuSensorCfg]

variable (setup : HostSetup)

/-- `if (const auto v = decode(...)) { ... }`. -/
def HostSetup.store {α : Type} (decoded : Except KeyError α) (assign : α → HostSetup) : HostSetup :=
  match decoded with
  | .ok v => assign v
  | .error _ => setup

/-- One case of the `switch` in `absorb`. -/
def HostSetup.absorbKey (value : List UInt8) : Key → HostSetup
  | .kPclDataType => setup.store (decodeDataType value) fun v => { setup with pclDataType := v }
  | .kPatternMode =>
    setup.store (decodeScanPattern value) fun v => { setup with scanPattern := some v }
  | .kFovCfg0 => setup.store (decodeFovConfig value) fun v =>
    { setup with fov := some { setup.fov.getD {} with fov0 := some v } }
  | .kFovCfg1 => setup.store (decodeFovConfig value) fun v =>
    { setup with fov := some { setup.fov.getD {} with fov1 := some v } }
  | .kFovCfgEn => setup.store (decodeFovEnable value) fun v =>
    { setup with fov := some { setup.fov.getD {} with enable := some v } }
  | .kImuDataEn => setup.store (decodeBool value) fun v => { setup with imuEnable := v }
  | .kDetectMode =>
    setup.store (decodeDetectMode value) fun v => { setup with detectMode := some v }
  | .kTimeFilter => setup.store (decodeBool value) fun v => { setup with timeFilter := some v }
  | .kImuSensorCfg =>
    setup.store (decodeImuSensorConfig value) fun v => { setup with imuSensorConfig := some v }
  | _ => setup

/-- The `switch` on the raw key; a key without a case changes nothing. -/
def HostSetup.absorbKeyValue (kv : KeyValue) : HostSetup :=
  match absorbedKeys.find? fun k => k.raw = kv.key with
  | some k => setup.absorbKey kv.value k
  | none => setup

/-- `absorb`. -/
def HostSetup.absorb (values : List KeyValue) : HostSetup :=
  values.foldl HostSetup.absorbKeyValue setup

/-- Whether the decoder of a key accepts a value. -/
def Key.accepts (value : List UInt8) : Key → Bool
  | .kPclDataType => (decodeDataType value).isOk
  | .kPatternMode => (decodeScanPattern value).isOk
  | .kFovCfg0 => (decodeFovConfig value).isOk
  | .kFovCfg1 => (decodeFovConfig value).isOk
  | .kFovCfgEn => (decodeFovEnable value).isOk
  | .kImuDataEn => (decodeBool value).isOk
  | .kDetectMode => (decodeDetectMode value).isOk
  | .kTimeFilter => (decodeBool value).isOk
  | .kImuSensorCfg => (decodeImuSensorConfig value).isOk
  | _ => false

/-- The last value of a key in a sequence that the key's decoder accepts. -/
def lastAccepted (k : Key) (kvs : List KeyValue) : Option (List UInt8) :=
  ((kvs.filter fun kv => kv.key = k.raw && k.accepts kv.value).getLast?).map KeyValue.value

/-- The setup after a sequence of acknowledged `configure` calls. -/
def HostSetup.configured (calls : List (List KeyValue)) : HostSetup :=
  calls.foldl HostSetup.absorb setup

theorem HostSetup.configured_eq (calls : List (List KeyValue)) :
    setup.configured calls = calls.flatten.foldl HostSetup.absorbKeyValue setup := by
  rw [configured, List.foldl_flatten]
  rfl

/-! ## One entry -/

variable {k : Key}

/-- A stored value is sent as the bytes it was decoded from, if it was decoded. -/
theorem slot_store {α : Type} {setup : HostSetup} {hostIp : Ipv4} {value : List UInt8}
    {decoded : Except KeyError α} {assign : α → HostSetup}
    (hslot : ∀ v, decoded = .ok v → (assign v).slot hostIp k = some value) :
    (setup.store decoded assign).slot hostIp k =
      if decoded.isOk then some value else setup.slot hostIp k := by
  cases decoded with
  | error => rfl
  | ok v => exact hslot v rfl

/-- A stored value leaves alone what its assignment leaves alone. -/
theorem HostSetup.store_frame {α β : Type} (view : HostSetup → β) {setup : HostSetup}
    {decoded : Except KeyError α} {assign : α → HostSetup}
    (h : ∀ v, view (assign v) = view setup) : view (setup.store decoded assign) = view setup := by
  cases decoded with
  | error => rfl
  | ok v => exact h v

/-- An absorbed value is what the setup sends for its key from then on. -/
theorem slot_absorbKey_self (hostIp : Ipv4) (value : List UInt8) (hk : k ∈ absorbedKeys) :
    (setup.absorbKey value k).slot hostIp k =
      if k.accepts value then some value else setup.slot hostIp k := by
  cases k with
  | kPclDataType => exact slot_store fun v hv => congrArg some (encode_of_decodeDataType hv)
  | kPatternMode | kImuDataEn | kDetectMode | kTimeFilter =>
    exact slot_store fun v hv => congrArg some (encode_of_decodeEnumU8 (by decide) hv)
  | kFovCfg0 | kFovCfg1 =>
    exact slot_store fun v hv => congrArg some (encode_of_decodeFovConfig hv)
  | kFovCfgEn => exact slot_store fun v hv => congrArg some (encode_of_decodeFovEnable hv)
  | kImuSensorCfg =>
    exact slot_store fun v hv => congrArg some (encode_of_decodeImuSensorConfig hv)
  | _ => exact absurd hk (by decide)

/-- An absorbed value leaves the slots of the other keys alone. -/
theorem slot_absorbKey_of_ne (hostIp : Ipv4) (value : List UInt8) {l : Key} (h : k ≠ l) :
    (setup.absorbKey value k).slot hostIp l = setup.slot hostIp l := by
  cases k with
  | kPclDataType | kPatternMode | kImuDataEn | kDetectMode | kTimeFilter | kImuSensorCfg =>
    refine HostSetup.store_frame (HostSetup.slot · hostIp l) fun v => ?_
    cases l <;> first | rfl | exact absurd rfl h
  | kFovCfg0 | kFovCfg1 | kFovCfgEn =>
    refine HostSetup.store_frame (HostSetup.slot · hostIp l) fun v => ?_
    -- The record of the three FOV keys may have been absent before.
    cases l <;> first | rfl | exact absurd rfl h | skip
    all_goals cases hfov : setup.fov <;> simp [HostSetup.slot, hfov]
  | _ => rfl

/-- A key without a case is never accepted. -/
theorem Key.accepts_eq_false (hk : k ∉ absorbedKeys) (value : List UInt8) :
    k.accepts value = false := by
  cases k <;> first | rfl | exact absurd hk (by decide)

/-- **One acknowledged entry.**  It replaces the slot of its key by its own bytes,
if the decoder of the key accepts them, and no other slot. -/
theorem slot_absorbKeyValue (hostIp : Ipv4) (kv : KeyValue) (k : Key) :
    (setup.absorbKeyValue kv).slot hostIp k =
      if kv.key = k.raw ∧ k.accepts kv.value = true then some kv.value
      else setup.slot hostIp k := by
  unfold HostSetup.absorbKeyValue
  cases hfind : absorbedKeys.find? fun l => l.raw = kv.key with
  | none =>
    have hnot : ¬(kv.key = k.raw ∧ k.accepts kv.value = true) := by
      rintro ⟨hkey, haccepts⟩
      have hk : k ∉ absorbedKeys := by
        intro hmem
        exact absurd hkey.symm (by simpa using List.find?_eq_none.mp hfind k hmem)
      simp [Key.accepts_eq_false hk] at haccepts
    rw [if_neg hnot]
  | some l =>
    have hl : l ∈ absorbedKeys := List.mem_of_find?_eq_some hfind
    have hraw : l.raw = kv.key := by simpa using List.find?_some hfind
    dsimp only
    by_cases hkl : l = k
    · subst hkl
      simp [slot_absorbKey_self setup hostIp kv.value hl, hraw]
    · have hkey : kv.key ≠ k.raw := by
        rw [← hraw]
        simpa using hkl
      rw [slot_absorbKey_of_ne setup hostIp kv.value hkl, if_neg (by simp [hkey])]

/-! ## All of them -/

theorem lastAccepted_concat (k : Key) (kvs : List KeyValue) (kv : KeyValue) :
    lastAccepted k (kvs ++ [kv]) =
      if kv.key = k.raw ∧ k.accepts kv.value = true then some kv.value
      else lastAccepted k kvs := by
  unfold lastAccepted
  by_cases h : kv.key = k.raw ∧ k.accepts kv.value = true <;> simp [List.filter_append, h]

/-- **A slot holds the last accepted value of its key**, or what it held before. -/
theorem slot_configured (hostIp : Ipv4) (calls : List (List KeyValue)) (k : Key) :
    (setup.configured calls).slot hostIp k =
      (lastAccepted k calls.flatten).or (setup.slot hostIp k) := by
  rw [HostSetup.configured_eq]
  generalize calls.flatten = kvs
  induction kvs using List.reverseRecOn with
  | nil => rfl
  | append_singleton kvs kv ih =>
    rw [List.foldl_append, List.foldl_cons, List.foldl_nil, slot_absorbKeyValue,
      lastAccepted_concat, ih]
    split <;> rfl

/-- Nothing outside the nine keys is ever the last accepted value. -/
theorem lastAccepted_eq_none (hk : k ∉ absorbedKeys) (kvs : List KeyValue) :
    lastAccepted k kvs = none := by
  simp [lastAccepted, Key.accepts_eq_false hk]

/-- **A reconnect restores the last value written.** -/
theorem reconnect_restores (initial : HostSetup) (calls : List (List KeyValue)) (hostIp : Ipv4) :
    let out := hostSetupKeyValues (initial.configured calls) hostIp
    let first := hostSetupKeyValues initial hostIp
    (∀ k ∈ absorbedKeys, findKey out.keyValues k =
      (lastAccepted k calls.flatten).or (findKey first.keyValues k)) ∧
    (∀ key : UInt16, key ∉ absorbedKeys.map Key.raw →
      findRaw out.keyValues key = findRaw first.keyValues key) ∧
    (out.values.map KeyView.key).Nodup ∧
    (∀ v ∈ out.values, v.off + v.len ≤ out.storage.length) ∧
    out.values.Pairwise fun v w => v.off + v.len ≤ w.off ∨ w.off + w.len ≤ v.off := by
  intro out first
  refine ⟨?_, ?_, hostSetupKeyValues_keys_nodup _ _, hostSetupKeyValues_within _ _, ?_⟩
  · intro k _
    rw [findKey_hostSetupKeyValues, findKey_hostSetupKeyValues, slot_configured]
  · intro key hkey
    by_cases hsetup : key ∈ hostSetupKeys.map Key.raw
    · obtain ⟨k, -, rfl⟩ := List.mem_map.mp hsetup
      have hk : k ∉ absorbedKeys := fun hmem => hkey (List.mem_map_of_mem hmem)
      have hlookup : findKey out.keyValues k = findKey first.keyValues k := by
        rw [findKey_hostSetupKeyValues, findKey_hostSetupKeyValues, slot_configured,
          lastAccepted_eq_none hk, Option.none_or]
      exact hlookup
    · rw [findRaw_hostSetupKeyValues hsetup, findRaw_hostSetupKeyValues hsetup]
  · exact (fixUp_ordered _ _ 0).imp Or.inl

/-- The second data type is no data type of points, so the first stays. -/
theorem reconnect_restores_dataType : findKey (hostSetupKeyValues (HostSetup.configured {}
        [[⟨0x0000, [2]⟩, ⟨0x0001, [1]⟩], [⟨0x0000, [0]⟩]]) ⟨192, 168, 1, 5⟩).keyValues
      .kPclDataType = some [2] := by
  rw [(reconnect_restores _ _ _).1 .kPclDataType (by decide)]
  decide

/-! ## Whether the replay is sent -/

/-- The host address and the work mode are not among the keys `absorb` stores. -/
theorem absorbKeyValue_frame (kv : KeyValue) :
    (setup.absorbKeyValue kv).ip = setup.ip ∧
      (setup.absorbKeyValue kv).workTgtMode = setup.workTgtMode := by
  unfold HostSetup.absorbKeyValue
  split
  · rename_i k _
    cases k <;> first
      | exact ⟨rfl, rfl⟩
      | exact ⟨HostSetup.store_frame HostSetup.ip fun _ => rfl,
          HostSetup.store_frame HostSetup.workTgtMode fun _ => rfl⟩
  · exact ⟨rfl, rfl⟩

theorem configured_frame (calls : List (List KeyValue)) :
    (setup.configured calls).ip = setup.ip ∧
      (setup.configured calls).workTgtMode = setup.workTgtMode := by
  rw [HostSetup.configured_eq]
  generalize calls.flatten = kvs
  induction kvs generalizing setup with
  | nil => exact ⟨rfl, rfl⟩
  | cons kv kvs ih =>
    obtain ⟨hip, hmode⟩ := absorbKeyValue_frame setup kv
    rw [List.foldl_cons, (ih _).1, (ih _).2]
    exact ⟨hip, hmode⟩

/-- Whether a value is a FOV window in range. -/
def windowInRange (value : List UInt8) : Bool :=
  match decodeFovConfig value with
  | .ok f => fovInRange f
  | .error _ => false

/-- The last window written with each of the two keys, if any, is in range. -/
def LastWindowsInRange (kvs : List KeyValue) : Prop :=
  ∀ k ∈ [Key.kFovCfg0, Key.kFovCfg1], (lastAccepted k kvs).all windowInRange = true

theorem windowInRange_encodeFovConfig :
    (fun f => windowInRange (encodeFovConfig f)) = fovInRange := by
  funext f
  rw [windowInRange, decodeFovConfig_encodeFovConfig]

/-- The check of the windows, in terms of what would be sent. -/
theorem fovOutOfRange_eq_none_iff_slot (hostIp : Ipv4) :
    fovOutOfRange setup.fov = none ↔ ∀ k ∈ [Key.kFovCfg0, Key.kFovCfg1],
      (setup.slot hostIp k).all windowInRange = true := by
  rw [fovOutOfRange_eq_none_iff, List.forall_mem_cons, List.forall_mem_singleton]
  simp only [HostSetup.slot, Option.all_map, windowInRange_encodeFovConfig]

/-- **When a replay is sent.**  Provided the initial setup passes the checks of
`apply_host_setup`, the setup after acknowledged calls passes them, and is sent,
exactly when the last window written with each FOV key is in range. -/
theorem replay_sent_iff (session : Session) (initial : HostSetup)
    (hpass : (hostSetupCheck initial session.localIp).isOk = true)
    (calls : List (List KeyValue)) :
    ((hostSetupCheck (initial.configured calls) session.localIp).isOk = true ↔
      LastWindowsInRange calls.flatten) ∧
    ((applyHostSetup session (initial.configured calls)).2 ≠ [] ↔
      LastWindowsInRange calls.flatten) := by
  have hcheck : (hostSetupCheck (initial.configured calls) session.localIp).isOk = true ↔
      LastWindowsInRange calls.flatten := by
    obtain ⟨hip, hmode, hfov⟩ := (hostSetupCheck_isOk_iff initial session.localIp).mp hpass
    obtain ⟨hip', hmode'⟩ := configured_frame initial calls
    rw [hostSetupCheck_isOk_iff, hip', hmode', and_iff_right hip, and_iff_right hmode,
      fovOutOfRange_eq_none_iff_slot _ session.localIp]
    rw [fovOutOfRange_eq_none_iff_slot _ session.localIp] at hfov
    refine forall₂_congr fun k hk => ?_
    rw [slot_configured]
    -- Either a window was written, or the initial one is still there.
    cases hwritten : lastAccepted k calls.flatten with
    | none => simpa using hfov k hk
    | some => rfl
  exact ⟨hcheck, (applyHostSetup_sends_iff session _).trans hcheck⟩

/-- A session that acknowledges everything. -/
def acknowledging (localIp : Ipv4) : Session where
  localIp := localIp
  configure _ := .ok ⟨.kSuccess, 0⟩
  waitForState _ _ := .ok ()

/-- A window from 10 to 350 degrees replaces one that is out of range. -/
theorem replay_sent_iff_window :
    (applyHostSetup (acknowledging ⟨192, 168, 1, 5⟩) (HostSetup.configured {}
      [[⟨0x0015, encodeFovConfig ⟨400, 400, 0, 0, 0⟩⟩],
        [⟨0x0015, encodeFovConfig ⟨10, 350, 0, 0, 0⟩⟩]])).2 ≠ [] := by
  refine (replay_sent_iff (acknowledging ⟨192, 168, 1, 5⟩) {} (by decide) _).2.mpr ?_
  unfold LastWindowsInRange
  decide

/-- **An acknowledged window can block every replay.**  The initial setup passes;
after one acknowledged window that starts at a yaw of 400 degrees the setup is
refused, with the key of the window, before anything is sent. -/
theorem out_of_range_window_blocks :
    (hostSetupCheck {} ⟨192, 168, 1, 5⟩).isOk = true ∧
    applyHostSetup (acknowledging ⟨192, 168, 1, 5⟩) (HostSetup.configured {}
      [[⟨0x0015, encodeFovConfig ⟨400, 400, 0, 0, 0⟩⟩]]) =
        (.error (.invalidArgument 0x0015), []) := by
  exact ⟨by decide, rfl⟩

end LivoxMid360
