import LivoxMid360.Keys

/-!
# The host setup

Pointing the LiDAR at this host (`config.hpp`, `config.cpp`): `apply_host_setup`
checks a `HostSetup`, sends its keys as one configuration request and, when a work
mode is asked for, a second one with the mode.

`host_setup_key_values` builds the first request in two passes.  Its `put` appends
every value to one buffer, and since the buffer moves while it grows, the views
into it are fixed up at the end from the recorded lengths.  The model keeps both
passes: a `KeyView` is an offset and a length, and `HostSetupKeyValues.keyValues`
are the bytes the views show.

* `hostSetupKeyValues_keyValues` says what the two passes come to: the keys of
  `hostSetupKeys` in order, each with its bytes in `HostSetup.slot`, those without
  left out.
* `fixUp_within` and `fixUp_ordered` are the layout: every view lies inside the
  buffer, and no two overlap.
* `applyHostSetup_sends_iff` says when a setup is sent at all: exactly when it
  passes the checks of `hostSetupCheck`.

The session is a parameter: it answers each request as it likes, depending on all
that was sent before.
-/

namespace LivoxMid360

open LittleEndian

/-! ## Constants -/

def kPushPort : UInt16 := 56200
def kPointCloudPort : UInt16 := 56300
def kImuPort : UInt16 := 56400
def kDefaultHostPushPort : UInt16 := 56201
def kDefaultHostPointCloudPort : UInt16 := 56301
def kDefaultHostImuPort : UInt16 := 56401

/-- `CmdId::kParamConfig`. -/
def kParamConfig : UInt16 := 0x0100

/-- Result of a request, as carried on the wire. -/
structure RetCode where
  raw : UInt8
deriving DecidableEq, Repr

namespace RetCode

def kSuccess : RetCode := ⟨0x00⟩
def kParamRebootEffect : RetCode := ⟨0x21⟩

end RetCode

/-! ## Setup and session -/

/-- What the LiDAR needs to know about this host. -/
structure HostSetup where
  ip : Option Ipv4 := none
  pushPort : UInt16 := kDefaultHostPushPort
  pointPort : UInt16 := kDefaultHostPointCloudPort
  imuPort : UInt16 := kDefaultHostImuPort
  pclDataType : DataType := .kCartesian32
  imuEnable : Bool := true
  workTgtMode : Option WorkState := none
  scanPattern : Option ScanPattern := none
  fov : Option FovSettings := none
  detectMode : Option DetectMode := none
  timeFilter : Option Bool := none
  imuSensorConfig : Option ImuSensorConfig := none
  waitTimeoutMs : ℕ := 20000
deriving DecidableEq, Repr

inductive SessionErrorKind where
  | kTransport
  | kTimeout
  | kBadResponse
  | kLidarRejected
  | kUnexpectedState
  | kCancelled
  | kInvalidArgument
deriving DecidableEq, Repr

/-- Error of a session call. -/
structure SessionError where
  kind : SessionErrorKind := .kTransport
  cmdId : UInt16 := 0
  attempts : UInt32 := 0
  parse : Option ParseError := none
  retCode : RetCode := .kSuccess
  errorKey : UInt16 := 0
  workState : Option WorkState := none
deriving DecidableEq, Repr

structure ParamConfigAck where
  retCode : RetCode
  errorKey : UInt16
deriving DecidableEq, Repr

/-- A connected session as `apply_host_setup` uses it.  `configure` answers the
last of the requests sent so far. -/
structure Session where
  localIp : Ipv4
  configure : List (List KeyValue) → Except SessionError ParamConfigAck
  waitForState : WorkState → ℕ → Except SessionError Unit

structure HostSetupResult where
  rebootRequired : Bool := false
  finalState : Option WorkState := none
deriving DecidableEq, Repr

/-! ## The first request -/

/-- One entry of `HostSetupKeyValues::values`: a key and a view into the buffer. -/
structure KeyView where
  key : UInt16
  off : ℕ
  len : ℕ
deriving DecidableEq, Repr

structure HostSetupKeyValues where
  storage : List UInt8
  values : List KeyView
deriving DecidableEq, Repr

/-- The bytes the views show. -/
def HostSetupKeyValues.keyValues (out : HostSetupKeyValues) : List KeyValue :=
  out.values.map fun v => ⟨v.key, slice out.storage v.off v.len⟩

/-- The buffer, the keys of `values` and `lengths` while they are filled. -/
structure Draft where
  storage : List UInt8 := []
  keys : List UInt16 := []
  lengths : List ℕ := []

namespace Draft

/-- The lambda `put`. -/
def put (d : Draft) (key : Key) (bytes : List UInt8) : Draft where
  storage := d.storage ++ bytes
  keys := d.keys ++ [key.raw]
  lengths := d.lengths ++ [bytes.length]

/-- `if (x) put(key, encode(*x))`. -/
def putSome (d : Draft) (key : Key) : Option (List UInt8) → Draft
  | some bytes => d.put key bytes
  | none => d

end Draft

/-- The second pass: the views, from the offset reached so far. -/
def fixUp : List UInt16 → List ℕ → ℕ → List KeyView
  | key :: keys, n :: lengths, off => ⟨key, off, n⟩ :: fixUp keys lengths (off + n)
  | _, _, _ => []

variable (setup : HostSetup)

/-- The first pass of `host_setup_key_values`. -/
def hostSetupDraft (hostIp : Ipv4) : Draft :=
  let d : Draft := {}
  let d := d.put .kStateInfoHostIpCfg (encodeHostIpConfig ⟨hostIp, setup.pushPort, kPushPort⟩)
  let d := d.put .kPointCloudHostIpCfg
    (encodeHostIpConfig ⟨hostIp, setup.pointPort, kPointCloudPort⟩)
  let d := d.put .kImuHostIpCfg (encodeHostIpConfig ⟨hostIp, setup.imuPort, kImuPort⟩)
  let d := d.put .kPclDataType (encodeEnumU8 setup.pclDataType)
  let d := d.put .kImuDataEn (encodeEnumU8 setup.imuEnable)
  let d := d.putSome .kPatternMode (setup.scanPattern.map encodeEnumU8)
  let d := match setup.fov with
    | none => d
    | some fov =>
      let d := d.putSome .kFovCfg0 (fov.fov0.map encodeFovConfig)
      let d := d.putSome .kFovCfg1 (fov.fov1.map encodeFovConfig)
      d.putSome .kFovCfgEn (fov.enable.map encodeFovEnable)
  let d := d.putSome .kDetectMode (setup.detectMode.map encodeEnumU8)
  let d := d.putSome .kTimeFilter (setup.timeFilter.map encodeEnumU8)
  d.putSome .kImuSensorCfg (setup.imuSensorConfig.map encodeImuSensorConfig)

/-- `host_setup_key_values`. -/
def hostSetupKeyValues (hostIp : Ipv4) : HostSetupKeyValues :=
  let d := hostSetupDraft setup hostIp
  { storage := d.storage, values := fixUp d.keys d.lengths 0 }

/-! ## Applying it -/

/-- The key of the first out-of-range window, if any. -/
def fovOutOfRange : Option FovSettings → Option Key
  | none => none
  | some fov =>
    if fov.fov0.any fun f => !fovInRange f then some .kFovCfg0
    else if fov.fov1.any fun f => !fovInRange f then some .kFovCfg1
    else none

def isRequestable (s : WorkState) : Bool :=
  s = .kSampling || s = .kIdle || s = .kReady

def SessionError.invalidArgument (errorKey : UInt16) : SessionError :=
  { kind := .kInvalidArgument, cmdId := kParamConfig, errorKey := errorKey }

/-- The argument checks at the head of `apply_host_setup`: the host address to
send, or the error. -/
def hostSetupCheck (localIp : Ipv4) : Except SessionError Ipv4 :=
  let ip := setup.ip.getD localIp
  if ip = ⟨0, 0, 0, 0⟩ then .error (.invalidArgument Key.kPointCloudHostIpCfg.raw)
  else if setup.workTgtMode.any fun s => !isRequestable s then
    .error (.invalidArgument Key.kWorkTgtMode.raw)
  else match fovOutOfRange setup.fov with
    | some bad => .error (.invalidArgument bad.raw)
    | none => .ok ip

/-- `apply_host_setup`: the result, and the requests handed to the session. -/
def applyHostSetup (session : Session) (setup : HostSetup) :
    Except SessionError HostSetupResult × List (List KeyValue) :=
  match hostSetupCheck setup session.localIp with
  | .error e => (.error e, [])
  | .ok ip =>
    let first := [(hostSetupKeyValues setup ip).keyValues]
    match session.configure first with
    | .error e => (.error e, first)
    | .ok ack =>
      let reboot : Bool := ack.retCode = .kParamRebootEffect
      match setup.workTgtMode with
      | none => (.ok { rebootRequired := reboot }, first)
      | some mode =>
        let both := first ++ [[⟨Key.kWorkTgtMode.raw, encodeU8 mode.raw⟩]]
        match session.configure both with
        | .error e => (.error e, both)
        | .ok ack2 =>
          let reboot : Bool := reboot || ack2.retCode = .kParamRebootEffect
          if setup.waitTimeoutMs > 0 then
            match session.waitForState mode setup.waitTimeoutMs with
            | .error e => (.error e, both)
            | .ok () => (.ok { rebootRequired := reboot, finalState := some mode }, both)
          else (.ok { rebootRequired := reboot }, both)

/-- **A setup is sent exactly when it passes the checks.**  What the session then
answers makes no difference to that. -/
theorem applyHostSetup_sends_iff (session : Session) (setup : HostSetup) :
    (applyHostSetup session setup).2 ≠ [] ↔ (hostSetupCheck setup session.localIp).isOk = true := by
  unfold applyHostSetup
  cases hcheck : hostSetupCheck setup session.localIp with
  | error => simp [Except.isOk, Except.toBool]
  | ok =>
    simp only [Except.isOk, Except.toBool, iff_true]
    repeat' split
    all_goals simp

/-- The checks, each on its own. -/
theorem hostSetupCheck_isOk_iff (localIp : Ipv4) :
    (hostSetupCheck setup localIp).isOk = true ↔
      setup.ip.getD localIp ≠ ⟨0, 0, 0, 0⟩ ∧
      (setup.workTgtMode.any fun s => !isRequestable s) = false ∧
      fovOutOfRange setup.fov = none := by
  unfold hostSetupCheck
  dsimp only
  split
  · rename_i hip
    simp [Except.isOk, Except.toBool, hip]
  · rename_i hip
    split
    · rename_i hmode
      simp [Except.isOk, Except.toBool, hmode]
    · rename_i hmode
      cases hfov : fovOutOfRange setup.fov with
      | some => simp [Except.isOk, Except.toBool]
      | none => simpa [Except.isOk, Except.toBool, hip] using hmode

/-- No window is out of range exactly when every window present is in range. -/
theorem fovOutOfRange_eq_none_iff (fov : Option FovSettings) :
    fovOutOfRange fov = none ↔
      (fov.bind FovSettings.fov0).all fovInRange = true ∧
      (fov.bind FovSettings.fov1).all fovInRange = true := by
  cases fov with
  | none => simp [fovOutOfRange]
  | some fov =>
    obtain ⟨fov0, fov1, enable⟩ := fov
    cases fov0 <;> cases fov1 <;> simp [fovOutOfRange, ite_eq_iff]

/-! ## What the two passes come to -/

/-- The order of the keys in the first request. -/
def hostSetupKeys : List Key :=
  [.kStateInfoHostIpCfg, .kPointCloudHostIpCfg, .kImuHostIpCfg, .kPclDataType, .kImuDataEn,
    .kPatternMode, .kFovCfg0, .kFovCfg1, .kFovCfgEn, .kDetectMode, .kTimeFilter, .kImuSensorCfg]

/-- The bytes a setup has for a key, if any. -/
def HostSetup.slot (hostIp : Ipv4) : Key → Option (List UInt8)
  | .kStateInfoHostIpCfg => some (encodeHostIpConfig ⟨hostIp, setup.pushPort, kPushPort⟩)
  | .kPointCloudHostIpCfg => some (encodeHostIpConfig ⟨hostIp, setup.pointPort, kPointCloudPort⟩)
  | .kImuHostIpCfg => some (encodeHostIpConfig ⟨hostIp, setup.imuPort, kImuPort⟩)
  | .kPclDataType => some (encodeEnumU8 setup.pclDataType)
  | .kImuDataEn => some (encodeEnumU8 setup.imuEnable)
  | .kPatternMode => setup.scanPattern.map encodeEnumU8
  | .kFovCfg0 => (setup.fov.bind FovSettings.fov0).map encodeFovConfig
  | .kFovCfg1 => (setup.fov.bind FovSettings.fov1).map encodeFovConfig
  | .kFovCfgEn => (setup.fov.bind FovSettings.enable).map encodeFovEnable
  | .kDetectMode => setup.detectMode.map encodeEnumU8
  | .kTimeFilter => setup.timeFilter.map encodeEnumU8
  | .kImuSensorCfg => setup.imuSensorConfig.map encodeImuSensorConfig
  | _ => none

/-- The entries of the first request, in order. -/
def HostSetup.entries (hostIp : Ipv4) : List (Key × List UInt8) :=
  hostSetupKeys.filterMap fun k => (setup.slot hostIp k).map (k, ·)

theorem hostSetupDraft_eq_foldl (hostIp : Ipv4) :
    hostSetupDraft setup hostIp =
      hostSetupKeys.foldl (fun d k => d.putSome k (setup.slot hostIp k)) {} := by
  unfold hostSetupDraft
  cases hfov : setup.fov with
  | none | some => simp [hostSetupKeys, HostSetup.slot, hfov, Draft.putSome]

/-- The first pass keeps the three lists in step. -/
theorem foldl_putSome (f : Key → Option (List UInt8)) (ks : List Key) (d : Draft) :
    ks.foldl (fun d k => d.putSome k (f k)) d =
      let es := ks.filterMap fun k => (f k).map (k, ·)
      { storage := d.storage ++ es.flatMap Prod.snd
        keys := d.keys ++ es.map fun e => e.1.raw
        lengths := d.lengths ++ es.map fun e => e.2.length } := by
  induction ks generalizing d with
  | nil => simp
  | cons k ks ih =>
    rw [List.foldl_cons, ih]
    cases hf : f k with
    | none => simp [Draft.putSome, hf]
    | some => simp [Draft.putSome, Draft.put, hf]

/-- The second pass reads back what the first one stored. -/
theorem fixUp_read (es : List (Key × List UInt8)) (pre : List UInt8) :
    ((fixUp (es.map fun e => e.1.raw) (es.map fun e => e.2.length) pre.length).map fun v =>
        (⟨v.key, slice (pre ++ es.flatMap Prod.snd) v.off v.len⟩ : KeyValue)) =
      es.map fun e => ⟨e.1.raw, e.2⟩ := by
  induction es generalizing pre with
  | nil => rfl
  | cons e es ih =>
    have hrest := ih (pre ++ e.2)
    rw [List.length_append, List.append_assoc] at hrest
    simp only [List.map_cons, fixUp, List.flatMap_cons]
    rw [hrest, slice_append rfl, List.take_left]

theorem fixUp_within (keys : List UInt16) (lengths : List ℕ) (off : ℕ) :
    ∀ v ∈ fixUp keys lengths off, off ≤ v.off ∧ v.off + v.len ≤ off + lengths.sum := by
  induction keys, lengths, off using fixUp.induct with
  | case1 key keys n lengths off ih =>
    intro v hv
    rw [fixUp, List.mem_cons] at hv
    rw [List.sum_cons]
    rcases hv with rfl | hv
    · exact ⟨le_rfl, by dsimp only; omega⟩
    · have := ih v hv
      omega
  | case2 => simp [fixUp]

/-- Each view ends before the next one starts. -/
theorem fixUp_ordered (keys : List UInt16) (lengths : List ℕ) (off : ℕ) :
    (fixUp keys lengths off).Pairwise fun v w => v.off + v.len ≤ w.off := by
  induction keys, lengths, off using fixUp.induct with
  | case1 key keys n lengths off ih =>
    rw [fixUp, List.pairwise_cons]
    exact ⟨fun w hw => (fixUp_within keys lengths (off + n) w hw).1, ih⟩
  | case2 => simp [fixUp]

theorem fixUp_keys {keys : List UInt16} {lengths : List ℕ} (h : keys.length = lengths.length)
    (off : ℕ) : (fixUp keys lengths off).map KeyView.key = keys := by
  induction keys generalizing lengths off with
  | nil => rfl
  | cons key keys ih =>
    cases lengths with
    | nil => simp at h
    | cons => rw [fixUp, List.map_cons, ih (Nat.succ.inj h)]

theorem hostSetupDraft_eq (hostIp : Ipv4) :
    hostSetupDraft setup hostIp =
      { storage := (setup.entries hostIp).flatMap Prod.snd
        keys := (setup.entries hostIp).map fun e => e.1.raw
        lengths := (setup.entries hostIp).map fun e => e.2.length } := by
  rw [hostSetupDraft_eq_foldl, foldl_putSome]
  rfl

/-- **The request carries exactly the entries of the setup.** -/
theorem hostSetupKeyValues_keyValues (hostIp : Ipv4) :
    (hostSetupKeyValues setup hostIp).keyValues =
      (setup.entries hostIp).map fun e => ⟨e.1.raw, e.2⟩ := by
  rw [hostSetupKeyValues, hostSetupDraft_eq]
  exact fixUp_read (setup.entries hostIp) []

/-- Looking a key up among the entries that a function gives to a list of keys. -/
theorem findRaw_filterMap (f : Key → Option (List UInt8)) (ks : List Key) (key : UInt16) :
    findRaw ((ks.filterMap fun k => (f k).map (k, ·)).map fun e => ⟨e.1.raw, e.2⟩) key =
      (ks.find? fun k => k.raw = key).bind f := by
  induction ks with
  | nil => rfl
  | cons k ks ih =>
    by_cases hk : k.raw = key
    · subst hk
      cases hf : f k with
      | some => simp [findRaw, hf]
      | none =>
        -- The entry is left out, and a later one would be of the same key.
        have hlater : (ks.find? fun l => l.raw = k.raw).bind f = none := by
          cases hfind : ks.find? fun l => l.raw = k.raw with
          | none => rfl
          | some l =>
            obtain rfl : l = k := by simpa using List.find?_some hfind
            exact hf
        rw [List.filterMap_cons_none (by simp [hf]), ih, hlater]
        simp [hf]
    · rw [List.find?_cons_of_neg (by simpa using hk), ← ih]
      cases hf : f k with
      | none => simp [hf]
      | some => simp [findRaw, hf, hk]

/-- What the request carries for a key. -/
theorem findKey_hostSetupKeyValues (hostIp : Ipv4) (k : Key) :
    findKey (hostSetupKeyValues setup hostIp).keyValues k = setup.slot hostIp k := by
  rw [hostSetupKeyValues_keyValues, HostSetup.entries, findKey, findRaw_filterMap]
  cases k <;> rfl

/-- A raw key that is none of the setup's is not in the request. -/
theorem findRaw_hostSetupKeyValues {key : UInt16} (h : key ∉ hostSetupKeys.map Key.raw)
    (setup : HostSetup) (hostIp : Ipv4) :
    findRaw (hostSetupKeyValues setup hostIp).keyValues key = none := by
  have hfind : (hostSetupKeys.find? fun k => k.raw = key) = none := by
    rw [List.find?_eq_none]
    intro k hk hkey
    exact h (List.mem_map.mpr ⟨k, hk, by simpa using hkey⟩)
  rw [hostSetupKeyValues_keyValues, HostSetup.entries, findRaw_filterMap, hfind, Option.bind_none]

theorem hostSetupKeyValues_keys (hostIp : Ipv4) :
    (hostSetupKeyValues setup hostIp).values.map KeyView.key =
      (setup.entries hostIp).map fun e => e.1.raw := by
  rw [hostSetupKeyValues, hostSetupDraft_eq]
  exact fixUp_keys (by simp) 0

theorem hostSetupKeyValues_keys_nodup (hostIp : Ipv4) :
    ((hostSetupKeyValues setup hostIp).values.map KeyView.key).Nodup := by
  have hkeys : ((setup.entries hostIp).map fun e => e.1.raw) =
      (hostSetupKeys.filter fun k => (setup.slot hostIp k).isSome).map Key.raw := by
    rw [HostSetup.entries]
    generalize hostSetupKeys = ks
    induction ks with
    | nil => rfl
    | cons k ks ih => cases hslot : setup.slot hostIp k <;> simp [hslot, ih]
  have hnodup : hostSetupKeys.Nodup := by decide
  rw [hostSetupKeyValues_keys, hkeys]
  exact (hnodup.filter _).map Key.raw_injective

/-- Every view lies inside the buffer. -/
theorem hostSetupKeyValues_within (hostIp : Ipv4) :
    ∀ v ∈ (hostSetupKeyValues setup hostIp).values,
      v.off + v.len ≤ (hostSetupKeyValues setup hostIp).storage.length := by
  intro v hv
  rw [hostSetupKeyValues, hostSetupDraft_eq] at hv ⊢
  have hin := (fixUp_within _ _ 0 v hv).2
  rw [Nat.zero_add] at hin
  simpa [List.length_flatMap] using hin

end LivoxMid360
