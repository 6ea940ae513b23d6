import LivoxMid360.Simulator.Push
import Mathlib.Algebra.Order.Monoid.Unbundled.Basic
import Mathlib.Order.Defs.LinearOrder

/-!
# The simulator around its device model

`Sim` is the class `Simulator` of `tools/livox_mid360_sim.py` as far as its commands read and
write it.  This module has what reboots it: a reboot is requested (`doReboot`), takes place
after a delay at a turn of the main loop (`turn`, `powerDown`), and is followed by a silence.

What the simulator reads from the machine it runs on (its clocks, the route to a host,
whether a socket could be opened or bound) comes in as a record of `Readings`.  An exception
that nothing catches ends the process; then there is no next state.
-/

namespace LivoxMid360

open LittleEndian PrefixMask

namespace Simulator

open Python (Exn PushExn)

/-! ## The device model -/

/-- `parse_host_ipcfg`. -/
def parseHostIpcfg (v : List UInt8) : Option (Ipv4 × UInt16 × UInt16) :=
  let ip : Ipv4 := ⟨v.getD 0 0, v.getD 1 0, v.getD 2 0, v.getD 3 0⟩
  let dst := readLe UInt16 v 4
  let src := readLe UInt16 v 6
  if ip = ⟨0, 0, 0, 0⟩ ∨ dst = 0 then none else some (ip, dst, src)

/-- A value of key 0x0004. -/
structure LidarIpcfg where
  bytes : List UInt8
  length_eq : bytes.length = 12
deriving DecidableEq

/-- The value of key 0x0004 that the constructor stores: the own address with the mask of the
factory, and with its gateway unless that is outside of the subnet. -/
def ownIpcfg (own : Ipv4) : LidarIpcfg :=
  let factory := (factorySettings.get KEY_LIDAR_IPCFG).getD []
  let mask := slice factory 4 4
  let gw := factory.drop 8
  let outside := ((gw.zip own.bytes).zip mask).any fun e => ((e.1.1 ^^^ e.1.2) &&& e.2) != 0
  ⟨own.bytes ++ (mask ++ if outside then [0, 0, 0, 0] else gw), by split_ifs <;> rfl⟩

/-- The keys whose source port a reboot clears. -/
def srcPortKeys : List ℕ :=
  [KEY_STATE_HOST, KEY_PCL_HOST, KEY_IMU_HOST]

/-- `value[:6] + b'\x00\x00' + value[8:]` under the key, if there is a value. -/
def Settings.clearSrcPort (s : Settings) (key : ℕ) : Settings :=
  match s.get key with
  | none => s
  | some value =>
    if value.length ≥ 8 then s.store key (value.take 6 ++ [0, 0] ++ value.drop 8) else s

namespace DeviceModel

variable {Time : Type}

/-- `host`. -/
def host (m : DeviceModel Time) (key : ℕ) : Option (Ipv4 × UInt16 × UInt16) :=
  parseHostIpcfg ((m.settings.get key).getD [])

/-- `set_gps_time`; `localNs` is what the clock showed. -/
def setGpsTime (m : DeviceModel Time) (ns localNs wallNs : ℤ) : DeviceModel Time :=
  { m with
    clock :=
      { syncType := 2
        masterOffsetNs := ns - wallNs
        lastSyncNs := wallNs + (ns - wallNs)
        offsetNs := localNs - (wallNs + (ns - wallNs)) } }

variable [Add Time]

/-- `reboot`. -/
def reboot (m : DeviceModel Time) (now : Time) : DeviceModel Time :=
  { m with
    powerupCnt := m.powerupCnt + 1
    settings := srcPortKeys.foldl Settings.clearSrcPort m.settings }.powerOn now

/-- `factory_reset`; `ipcfg` is `factory_lidar_ipcfg`. -/
def factoryReset (m : DeviceModel Time) (ipcfg : Option LidarIpcfg) (now : Time) :
    DeviceModel Time :=
  let settings :=
    match ipcfg with
    | none => factorySettings
    | some value => factorySettings.store KEY_LIDAR_IPCFG value.bytes
  { m with settings, hms := List.replicate 8 0 }.reboot now

/-- `force_state`. -/
def forceState (m : DeviceModel Time) (new : WorkState) (now : Time) : DeviceModel Time :=
  if new = .kSelfCheck ∨ new = .kMotorStartup then m.enterTimed new now else m.setState new

end DeviceModel

/-! ## What is in the table can be written -/

/-- A device that has every key and is at work. -/
def reference : DeviceModel Unit :=
  { startupDelay := (), selfcheckDelay := (), stateDeadline := () }

/-- The value passes the checks of `configure`, apart from what depends on the device. -/
def Acceptable (key : ℕ) (value : List UInt8) : Prop :=
  reference.check key value = none

instance (key : ℕ) (value : List UInt8) : Decidable (Acceptable key value) :=
  inferInstanceAs (Decidable (_ = _))

theorem reference_unsupported (key : ℕ) : reference.unsupported key = false := by
  simp [DeviceModel.unsupported, reference]

variable {key : ℕ} {value : List UInt8}

/-- The checks on an entry: the value, whether the firmware has the key, and for the target
the work state. -/
theorem DeviceModel.check_eq_none_iff {Time : Type} {m : DeviceModel Time} :
    m.check key value = none ↔
      Acceptable key value ∧ m.unsupported key = false ∧ (key = KEY_WORK_TGT_MODE → m.Working) := by
  have hstate : reference.workState = .kSelfCheck := rfl
  unfold Acceptable check
  dsimp only
  simp only [ite_some_eq_none_iff, reference_unsupported, hstate]
  -- the two differ in the third check and in the work state of the last
  constructor
  · rintro ⟨hro, hkey, hsup, hlen, h1, h2, h3, h4, h5, h6, h7, htgt⟩
    refine ⟨⟨hro, hkey, Bool.false_ne_true, hlen, h1, h2, h3, h4, h5, h6, h7, ?_⟩,
      Bool.eq_false_of_not_eq_true hsup, fun h => ?_⟩
    · split_ifs at htgt ⊢ with hk hw hr
      · simp at hw
      · rfl
      · rfl
    · rw [if_pos h] at htgt
      exact not_or.mp (ite_some_eq_none_iff.mp htgt).1
  · rintro ⟨⟨hro, hkey, -, hlen, h1, h2, h3, h4, h5, h6, h7, htgt⟩, hsup, hwork⟩
    refine ⟨hro, hkey, Bool.eq_false_iff.mp hsup, hlen, h1, h2, h3, h4, h5, h6, h7, ?_⟩
    split_ifs at htgt ⊢ with hk hw hr
    · exact absurd hw (not_or.mpr (hwork hk))
    · rfl
    · rfl

/-- For these keys only the length is checked. -/
theorem acceptable_host (hkey : key ∈ srcPortKeys) (h : value.length = 8) :
    Acceptable key value := by
  have hlen : ∀ k ∈ srcPortKeys, WRITABLE_LEN k = some 8 := by decide
  have hother : ∀ k ∈ srcPortKeys, k ∉ READ_ONLY ∧ k ≠ KEY_PCL_DATA_TYPE ∧ k ≠ KEY_PATTERN_MODE ∧
      k ≠ KEY_LIDAR_IPCFG ∧ k ≠ KEY_FOV0 ∧ k ≠ KEY_FOV1 ∧ k ≠ KEY_FUNC_IO ∧
      k ≠ KEY_DETECT_MODE ∧ k ≠ KEY_TIME_FILTER ∧ k ≠ KEY_IMU_SENSOR_CFG ∧
      k ≠ KEY_WORK_TGT_MODE := by decide
  obtain ⟨hro, h1, h2, h3, h4, h5, h6, h7, h8, h9, h10⟩ := hother key hkey
  simp [Acceptable, DeviceModel.check, reference_unsupported, hlen key hkey, hro, h, h1, h2, h3,
    h4, h5, h6, h7, h8, h9, h10]

/-- The gateway stays if the address begins with 192.168.1. -/
theorem ownIpcfg_bytes (own : Ipv4) :
    (ownIpcfg own).bytes = own.bytes ++ ((⟨255, 255, 255, 0⟩ : Ipv4).bytes ++
      if own.a = 192 ∧ own.b = 168 ∧ own.c = 1 then (⟨192, 168, 1, 1⟩ : Ipv4).bytes
      else (⟨0, 0, 0, 0⟩ : Ipv4).bytes) := by
  have hbyte : ∀ x y : UInt8, (x ^^^ y) &&& 255 = 0 ↔ y = x := by
    intro x y
    rw [show (255 : UInt8) = -1 from rfl, UInt8.and_neg_one, UInt8.xor_eq_zero_iff, eq_comm]
  have houtside : (((([192, 168, 1, 1] : List UInt8).zip own.bytes).zip
      ([255, 255, 255, 0] : List UInt8)).any fun e => ((e.1.1 ^^^ e.1.2) &&& e.2) != 0) = true ↔
      ¬(own.a = 192 ∧ own.b = 168 ∧ own.c = 1) := by
    rw [not_and_or, not_and_or, ← hbyte 192, ← hbyte 168, ← hbyte 1]
    simp [Ipv4.bytes]
  rw [← ite_not, ← if_congr houtside rfl rfl]
  rfl

/-- An address that the simulator can be bound to without its own check of key 0x0004
rejecting it. -/
def IsOwnHost (own : Ipv4) : Prop :=
  own.d ≠ 0 ∧ own.d ≠ 255 ∧ own ≠ ⟨192, 168, 1, 1⟩

theorem lidarIpcfgValid_ownIpcfg {own : Ipv4} (h : IsOwnHost own) :
    Python.lidarIpcfgValid (ownIpcfg own).bytes = true := by
  obtain ⟨hzero, hones, hgateway⟩ := h
  obtain ⟨a, b, c, d⟩ := own
  have hhost := isHostAddress_octet hzero hones
  have hmask : IsPrefix (Ipv4.u32 ⟨255, 255, 255, 0⟩).toBitVec 24 := by
    unfold IsPrefix
    decide
  have hvalid : ∀ gateway : Ipv4, (gateway.u32.toBitVec = 0 ∨
      SameSubnet 24 gateway.u32.toBitVec (Ipv4.u32 ⟨a, b, c, d⟩).toBitVec ∧
        gateway.u32.toBitVec ≠ (Ipv4.u32 ⟨a, b, c, d⟩).toBitVec ∧
        IsHostAddress 24 gateway.u32.toBitVec) →
      Python.lidarIpcfgValid ((⟨a, b, c, d⟩ : Ipv4).bytes ++
        ((⟨255, 255, 255, 0⟩ : Ipv4).bytes ++ gateway.bytes)) = true := by
    intro gateway hgw
    have hdecode : decodeLidarIpConfig ((⟨a, b, c, d⟩ : Ipv4).bytes ++
        ((⟨255, 255, 255, 0⟩ : Ipv4).bytes ++ gateway.bytes)) =
        .ok ⟨⟨a, b, c, d⟩, ⟨255, 255, 255, 0⟩, gateway⟩ := by
      simp [decodeLidarIpConfig, decodeIpv4, Ipv4.bytes, Python.readLe_eq_getElem]
    rw [Python.lidarIpcfgValid_eq hdecode, lidarIpConfigValid_iff]
    refine ⟨24, by decide, by decide, hmask, ?_, ?_, hhost, hgw⟩
    · exact fun heq => hzero (Ipv4.d_eq_of_u32 ⟨0, 0, 0, 0⟩ heq)
    · exact fun heq => hones (Ipv4.d_eq_of_u32 ⟨255, 255, 255, 255⟩ heq)
  rw [ownIpcfg_bytes]
  split_ifs with hsubnet
  · obtain ⟨rfl, rfl, rfl⟩ := hsubnet
    refine hvalid ⟨192, 168, 1, 1⟩ (.inr ⟨fun i hi => Ipv4.u32_getMsbD 1 d hi, fun heq => ?_, ?_⟩)
    · exact hgateway (by rw [← show (1 : UInt8) = d from Ipv4.d_eq_of_u32 _ heq])
    · exact isHostAddress_octet (by decide) (by decide)
  · exact hvalid ⟨0, 0, 0, 0⟩ (.inl rfl)

/-- Of key 0x0004 the length and the addresses are checked. -/
theorem acceptable_ipcfg (hlen : value.length = 12) (hvalid : Python.lidarIpcfgValid value = true) :
    Acceptable KEY_LIDAR_IPCFG value := by
  have hwritable : (4 : ℕ) ∉ READ_ONLY ∧ WRITABLE_LEN 4 = some 12 := ⟨by decide, rfl⟩
  unfold Acceptable DeviceModel.check
  simp [reference_unsupported, hwritable.1, hwritable.2, hlen, hvalid, KEY_LIDAR_IPCFG,
    KEY_PCL_DATA_TYPE, KEY_PATTERN_MODE, KEY_FOV0, KEY_FOV1, KEY_FUNC_IO, KEY_DETECT_MODE,
    KEY_TIME_FILTER, KEY_IMU_SENSOR_CFG, KEY_WORK_TGT_MODE]

namespace Settings

/-- Every value in the table is one that `configure` accepts. -/
def Acceptable (s : Settings) : Prop :=
  ∀ key value, s.get key = some value → Simulator.Acceptable key value

theorem acceptable_factory : factorySettings.Acceptable := by
  have hall : ∀ e ∈ factoryTable, Simulator.Acceptable e.1 e.2 := by decide +kernel
  intro key value hget
  obtain ⟨l₁, l₂, htable, -⟩ := List.lookup_eq_some_iff.mp hget
  refine hall (key, value) ?_
  rw [htable]
  simp

variable {s : Settings}

theorem Acceptable.store (h : s.Acceptable) {key : ℕ} {value : List UInt8}
    (hvalue : Simulator.Acceptable key value) : (s.store key value).Acceptable := by
  intro key' value' hget
  unfold Settings.store at hget
  split_ifs at hget
  · dsimp only at hget
    by_cases hkey : key' = key
    · subst hkey
      rw [Function.update_self] at hget
      cases hget
      exact hvalue
    · rw [Function.update_of_ne hkey] at hget
      exact h key' value' hget
  · exact h key' value' hget

/-- Entries that are accepted are written one after the other. -/
theorem Acceptable.foldl_store (h : s.Acceptable) {kvs : List (ℕ × List UInt8)}
    (hkvs : ∀ e ∈ kvs, Simulator.Acceptable e.1 e.2) :
    (kvs.foldl (fun s e => s.store e.1 e.2) s).Acceptable :=
  List.foldlRecOn kvs _ h fun _ hs e he => hs.store (hkvs e he)

theorem Acceptable.clearSrcPort (h : s.Acceptable) {key : ℕ} (hkey : key ∈ srcPortKeys) :
    (s.clearSrcPort key).Acceptable := by
  have hlen : ∀ k ∈ srcPortKeys, WRITABLE_LEN k = some 8 := by decide
  unfold Settings.clearSrcPort
  split
  · exact h
  · rename_i value hget
    have hvalue : value.length = 8 := by
      have hlength := s.lengths key
      rw [hget, hlen key hkey] at hlength
      exact Option.some.inj hlength
    split_ifs
    · refine h.store (acceptable_host hkey ?_)
      simp [hvalue]
    · exact h

end Settings

namespace DeviceModel

variable {Time : Type} [Add Time] {m : DeviceModel Time}

@[simp] theorem powerOn_settings (now : Time) : (m.powerOn now).settings = m.settings :=
  enterTimed_settings ..

@[simp] theorem forceState_settings (new : WorkState) (now : Time) :
    (m.forceState new now).settings = m.settings := by
  unfold forceState
  split_ifs <;> simp

/-- The table after a factory reset. -/
def resetSettings (ipcfg : Option LidarIpcfg) : Settings :=
  srcPortKeys.foldl Settings.clearSrcPort
    (match ipcfg with
    | none => factorySettings
    | some value => factorySettings.store KEY_LIDAR_IPCFG value.bytes)

theorem factoryReset_settings (ipcfg : Option LidarIpcfg) (now : Time) :
    (m.factoryReset ipcfg now).settings = resetSettings ipcfg :=
  powerOn_settings ..

section Powerups

variable (m : DeviceModel Time) (new : WorkState) (now : Time)

omit [Add Time] in
@[simp] theorem setState_powerupCnt : (m.setState new).powerupCnt = m.powerupCnt := by
  unfold setState
  dsimp only
  split_ifs <;> rfl

@[simp] theorem enterTimed_powerupCnt :
    (m.enterTimed new now).powerupCnt = m.powerupCnt :=
  setState_powerupCnt m new

@[simp] theorem followTarget_powerupCnt : (m.followTarget now).powerupCnt = m.powerupCnt := by
  unfold followTarget
  dsimp only
  split_ifs <;> simp

@[simp] theorem forceState_powerupCnt : (m.forceState new now).powerupCnt = m.powerupCnt := by
  unfold forceState
  split_ifs <;> simp

@[simp] theorem tick_powerupCnt [LE Time] [DecidableLE Time] :
    (m.tick now).powerupCnt = m.powerupCnt := by
  unfold tick
  dsimp only
  split_ifs <;> simp

@[simp] theorem reboot_powerupCnt :
    (m.reboot now).powerupCnt = m.powerupCnt + 1 :=
  enterTimed_powerupCnt ..

@[simp] theorem factoryReset_powerupCnt (ipcfg : Option LidarIpcfg) :
    (m.factoryReset ipcfg now).powerupCnt = m.powerupCnt + 1 :=
  reboot_powerupCnt ..

end Powerups

theorem reboot_acceptable (h : m.settings.Acceptable) (now : Time) :
    (m.reboot now).settings.Acceptable := by
  rw [reboot, powerOn_settings]
  exact List.foldlRecOn srcPortKeys _ h fun _ hs key hkey => hs.clearSrcPort hkey

theorem factoryReset_acceptable {ipcfg : Option LidarIpcfg}
    (h : ∀ v ∈ ipcfg, Acceptable KEY_LIDAR_IPCFG v.bytes) (now : Time) :
    (m.factoryReset ipcfg now).settings.Acceptable := by
  apply reboot_acceptable
  cases ipcfg with
  | none => exact Settings.acceptable_factory
  | some value => exact Settings.acceptable_factory.store (h value rfl)

omit [Add Time] in
/-- What passes the first loop of `configure` may be written. -/
theorem acceptable_of_validate {kvs : List (ℕ × List UInt8)} (h : m.validate kvs = none) :
    ∀ e ∈ kvs, Acceptable e.1 e.2 := by
  intro e he
  have hcheck := Option.map_eq_none_iff.mp (List.findSome?_eq_none_iff.mp h e he)
  exact (check_eq_none_iff.mp hcheck).1

/-- One check rejects, or one behind it. -/
theorem mem_of_ite_some {c : Prop} [Decidable c] {ret ret' : RetCode} {rest : Option RetCode}
    {codes : List RetCode} (h : (if c then some ret else rest) = some ret') (hret : ret ∈ codes)
    (hrest : rest = some ret' → ret' ∈ codes) : ret' ∈ codes := by
  split_ifs at h
  · cases h
    exact hret
  · exact hrest h

omit [Add Time] in
/-- A rejection has one of four codes. -/
theorem check_ret {key : ℕ} {value : List UInt8} {ret : RetCode}
    (h : m.check key value = some ret) :
    ret ∈ [RET_PARAM_NOT_SUPPORT, RET_PARAM_INVALID_LEN, RET_OUT_OF_RANGE, RET_NOT_PERMIT_NOW] := by
  unfold check at h
  dsimp only at h
  iterate 11 refine mem_of_ite_some h (by simp) fun h => ?_
  split_ifs at h <;> cases h <;> simp

/-- **Accepted or rejected**: the code says which, and a rejected list has changed nothing. -/
theorem configure_ret (m : DeviceModel Time) (kvs : List (ℕ × List UInt8)) (now : Time) :
    ((m.configure kvs now).1.1 = RET_OK ∨
        (m.configure kvs now).1.1 = RET_PARAM_REBOOT_EFFECT) ∧
      (m.configure kvs now).1.2 = 0 ∧
      (m.configure kvs now).2.settings.get = kvs.foldl put m.settings.get ∨
    (m.configure kvs now).1.1 ∈ [RET_PARAM_NOT_SUPPORT, RET_PARAM_INVALID_LEN,
      RET_OUT_OF_RANGE, RET_NOT_PERMIT_NOW] ∧ (m.configure kvs now).2 = m := by
  unfold configure
  cases hvalid : m.validate kvs with
  | some =>
    obtain ⟨e, -, hcheck⟩ := List.exists_of_findSome?_eq_some hvalid
    obtain ⟨ret, hret, rfl⟩ := Option.map_eq_some_iff.mp hcheck
    exact .inr ⟨check_ret hret, rfl⟩
  | none =>
    refine .inl ⟨foldl_apply_ret now RET_OK m kvs, rfl, ?_⟩
    dsimp only
    rw [followTarget_settings, foldl_apply_settings]
    exact m.settings.foldl_store_get (storable_of_validate hvalid)

theorem configure_acceptable (h : m.settings.Acceptable) (kvs : List (ℕ × List UInt8))
    (now : Time) : (m.configure kvs now).2.settings.Acceptable := by
  unfold configure
  cases hvalid : m.validate kvs with
  | some => exact h
  | none =>
    dsimp only
    rw [followTarget_settings, foldl_apply_settings]
    exact h.foldl_store (acceptable_of_validate hvalid)

end DeviceModel

/-! ### Reading and writing back -/

/-- A value that is there already. -/
theorem Settings.store_of_get {s : Settings} (h : s.get key = some value) :
    s.store key value = s := by
  unfold Settings.store
  split_ifs
  · have hget : Function.update s.get key (some value) = s.get := by
      rw [← h, Function.update_eq_self]
    obtain ⟨get, lengths, target⟩ := s
    simp only [hget]
  · rfl

namespace DeviceModel

section WriteBack

variable {Time : Type} {m : DeviceModel Time}

/-- Entries that are in the table are stored without a change. -/
theorem foldl_apply_of_get [Add Time] (now : Time) (ret : RetCode) {kvs : List (ℕ × List UInt8)}
    (h : ∀ e ∈ kvs, m.settings.get e.1 = some e.2) :
    kvs.foldl (apply now) (ret, m) = (ret, m) := by
  induction kvs with
  | nil => rfl
  | cons e kvs ih =>
    have hget := h e List.mem_cons_self
    have hstore : m.store e = m := by
      rw [store, Settings.store_of_get hget]
    have happly : apply now (ret, m) e = (ret, m) := by
      simp [apply, hget, hstore]
    rw [List.foldl_cons, happly]
    exact ih fun e' he' => h e' (List.mem_cons_of_mem _ he')

/-- What is in the table can be written back: it is accepted, and nothing changes. -/
theorem configure_of_get [Add Time] (hsettings : m.settings.Acceptable) (hworking : m.Working)
    {kvs : List (ℕ × List UInt8)} (h : ∀ e ∈ kvs, m.settings.get e.1 = some e.2)
    (hsupported : ∀ e ∈ kvs, m.unsupported e.1 = false) (now : Time) :
    m.configure kvs now = ((RET_OK, 0), m.followTarget now) := by
  have hvalid : m.validate kvs = none := by
    refine List.findSome?_eq_none_iff.mpr fun e he => Option.map_eq_none_iff.mpr ?_
    exact check_eq_none_iff.mpr
      ⟨hsettings e.1 e.2 (h e he), hsupported e he, fun _ => hworking⟩
  rw [configure, hvalid]
  dsimp only
  rw [foldl_apply_of_get now RET_OK h]

/-- A setting that the firmware has and that is answered as it is. -/
def Readable (m : DeviceModel Time) (key : ℕ) : Prop :=
  WRITABLE_LEN key ≠ none ∧ m.unsupported key = false ∧ m.inquireOverrides key = none

theorem Readable.inquireKey {key : ℕ} (h : m.Readable key) (nowNs : ℤ) (ret : RetCode)
    (before : List (ℕ × List UInt8)) :
    ∃ value, m.settings.get key = some value ∧
      m.inquireKey nowNs (ret, before) key = .ok (ret, before ++ [(key, value)]) := by
  obtain ⟨hwritable, hsupported, hoverride⟩ := h
  have hlength := m.settings.lengths key
  cases hget : m.settings.get key with
  | none =>
    rw [hget] at hlength
    exact absurd hlength.symm hwritable
  | some value =>
    have hread : m.readKey key nowNs = .ok (some value) := by
      rw [readKey, hsupported, hget]
      rfl
    exact ⟨value, rfl, by rw [DeviceModel.inquireKey, hoverride, hread]⟩

/-- The settings that are read are those in the table; `before` is the answer so far. -/
theorem foldlM_inquireKey {keys : List UInt16} (nowNs : ℤ) (ret : RetCode)
    (before : List (ℕ × List UInt8)) (h : ∀ key ∈ keys, m.Readable key.toNat) :
    ∃ kvs : List KeyValue, kvs.map KeyValue.key = keys ∧
      (∀ kv ∈ kvs, m.settings.get kv.key.toNat = some kv.value) ∧
      (keys.map UInt16.toNat).foldlM (m.inquireKey nowNs) (ret, before) =
        .ok (ret, before ++ kvs.map fun kv => (kv.key.toNat, kv.value)) := by
  induction keys generalizing before with
  | nil => exact ⟨[], rfl, by simp, by simp [pure, Except.pure]⟩
  | cons key keys ih =>
    obtain ⟨value, hget, hkey⟩ := (h key List.mem_cons_self).inquireKey nowNs ret before
    obtain ⟨kvs, hkvs, hvalues, hrest⟩ := ih (before ++ [(key.toNat, value)])
      fun k hk => h k (List.mem_cons_of_mem _ hk)
    refine ⟨⟨key, value⟩ :: kvs, by rw [List.map_cons, hkvs], ?_, ?_⟩
    · intro kv hkv
      obtain rfl | hkv := List.mem_cons.mp hkv
      · exact hget
      · exact hvalues kv hkv
    · rw [List.map_cons, List.foldlM_cons, hkey]
      refine hrest.trans ?_
      simp

end WriteBack

end DeviceModel

/-! ## The simulator -/

structure LogStream where
  logType : UInt8
  fileIndex : UInt8 := 1
  transIndex : UInt32 := 0
  requester : Option Endpoint := none
deriving DecidableEq

/-- A rule of `fail_cmds`. -/
structure FailRule where
  skip : ℤ
  count : ℤ
  ret : ℤ
  key : Option ℤ

/-- The command line. -/
structure Args (Time : Type) where
  /-- `--bind`; all zero for every address. -/
  bind : Ipv4 := ⟨0, 0, 0, 0⟩
  devType : ℤ := 9
  cmdPort : ℤ := 56100
  rebootDelay : Time
  rebootSilence : Time
  logChunkInterval : Time
  /-- Whether a capture is replayed. -/
  replay : Bool := false

/-- What the simulator reads while it handles one event. -/
structure Readings (Time : Type) where
  /-- `time.monotonic()` at the start. -/
  now : Time
  /-- `time.monotonic()` when it is read again. -/
  again : Time
  /-- `now_ns()`. -/
  nowNs : ℤ
  /-- The LiDAR's clock when it is set. -/
  localNs : ℤ
  wallNs : ℤ
  /-- `advertised_ip`. -/
  advertised : Ipv4
  /-- Whether `_debug_socket` has a socket. -/
  debugSocket : Bool
  /-- Whether `_rebind` succeeds. -/
  rebinds : Bool

/-- The device model, and what decides when it starts again. -/
structure Core (Time : Type) where
  model : DeviceModel Time
  factoryLidarIpcfg : Option LidarIpcfg
  silenceUntil : Time
  rebootAt : Option Time := none
  rebootFactory : Bool := false

/-- `Simulator`. -/
structure Sim (Time : Type) extends Core Time where
  lidarIp : Ipv4
  pendingRebind : Option Ipv4 := none
  seq : ℕ := 0
  pushDue : Bool := false
  nextPush : Time
  nextLog : Time
  nextDebug : Time
  logStreams : List (UInt8 × LogStream) := []
  logAcksReceived : ℕ := 0
  debugDest : Option (Ipv4 × UInt16) := none
  debugSeq : ℕ := 0
  dropAck : ℤ := 0
  failCmds : ℤ → Option FailRule := fun _ => none

/-- `lidar_ip`, while no reboot has moved the simulator. -/
def Args.lidarIp {Time : Type} (args : Args Time) : Ipv4 :=
  if args.bind = ⟨0, 0, 0, 0⟩ then ⟨127, 0, 0, 1⟩ else args.bind

/-- The constructor, with the device model that the command line asks for and the time
`0.0`. -/
def Sim.new {Time : Type} (args : Args Time) (model : DeviceModel Time) (zero : Time) :
    Sim Time where
  model :=
    { model with
      settings := factorySettings.store KEY_LIDAR_IPCFG (ownIpcfg args.lidarIp).bytes }
  factoryLidarIpcfg := some (ownIpcfg args.lidarIp)
  silenceUntil := zero
  lidarIp := args.lidarIp
  nextPush := zero
  nextLog := zero
  nextDebug := zero

def CMD_INFO_PUSH : ℕ := 0x0102
def REQ : ℕ := 0
def ACK : ℕ := 1
def SENDER_LIDAR : ℕ := 1

/-- The later of two times. -/
def later {Time : Type} [LT Time] [DecidableLT Time] (a b : Time) : Time :=
  if a < b then b else a

namespace Sim

variable {Time : Type} [Add Time] [LinearOrder Time]

/-- The device model has changed.  `_on_state` asks for a push at every change of state. -/
def withModel (s : Sim Time) (model : DeviceModel Time) : Sim Time :=
  { s with
    model
    pushDue := s.pushDue || decide (s.model.onState.length < model.onState.length) }

/-- `configured_ip`. -/
def configuredIp (s : Sim Time) : Ipv4 :=
  let v := (s.model.settings.get KEY_LIDAR_IPCFG).getD []
  ⟨v.getD 0 0, v.getD 1 0, v.getD 2 0, v.getD 3 0⟩

/-- `_apply_pending_rebind`. -/
def applyPendingRebind (s : Sim Time) (r : Readings Time) : Sim Time :=
  match s.pendingRebind with
  | none => s
  | some ip =>
    { s with pendingRebind := none, lidarIp := if r.rebinds then ip else s.lidarIp }

/-- `_send_push`: the frame, if it leaves. -/
def sendPush (s : Sim Time) (r : Readings Time) :
    Except PushExn (Sim Time × Option (List UInt8)) :=
  match s.model.host KEY_STATE_HOST with
  | none => .ok (s, none)
  | some _ =>
    let s := { s with seq := (s.seq + 1) % 4294967296 }
    match s.model.pushPayload r.nowNs with
    | .error x => .error x
    | .ok payload =>
      match (Python.CommandFrame.mk s.seq CMD_INFO_PUSH REQ SENDER_LIDAR payload
        (List.replicate 6 0)).encode with
      | .error x => .error (.exn x)
      | .ok frame => .ok (s, if r.again < s.silenceUntil then none else some frame)

/-- `_power_down`, from the push on. -/
def finishPowerDown (args : Args Time) (s : Sim Time) (factory : Bool) (now : Time) : Sim Time :=
  let up := now + args.rebootSilence
  let s :=
    { s with
      pushDue := false
      seq := 0
      silenceUntil := later s.silenceUntil up
      nextPush := later s.nextPush up
      nextLog := later s.nextLog up }
  let s := s.withModel
    (if factory then s.model.factoryReset s.factoryLidarIpcfg now else s.model.reboot now)
  -- SELFCHECK spans the silence
  let s :=
    { s with
      model := { s.model with stateDeadline := later s.model.stateDeadline up }
      debugDest := none
      debugSeq := 0 }
  if s.configuredIp ≠ s.lidarIp then { s with pendingRebind := some s.configuredIp } else s

/-- What is done once the push has left. -/
def andThen (x : Except PushExn (Sim Time × Option (List UInt8))) (g : Sim Time → Sim Time) :
    Except PushExn (Sim Time × Option (List UInt8)) :=
  x.map fun p => (g p.1, p.2)

/-- `_power_down`. -/
def powerDown (args : Args Time) (s : Sim Time) (r : Readings Time) :
    Except PushExn (Sim Time × Option (List UInt8)) :=
  let factory := s.rebootFactory
  let s := { s with rebootAt := none, rebootFactory := false }
  let s := s.withModel (s.model.forceState .kError r.now)
  if args.replay then .ok (s.finishPowerDown args factory r.now, none)
  else andThen (s.sendPush r) fun s => s.finishPowerDown args factory r.now

/-- `_do_reboot`. -/
def doReboot (args : Args Time) (s : Sim Time) (factory : Bool) (r : Readings Time) :
    Except PushExn (Sim Time × Option (List UInt8)) :=
  let at_ := s.rebootAt.getD (r.now + args.rebootDelay)
  let s := { s with rebootAt := some at_, rebootFactory := s.rebootFactory || factory }
  if at_ ≤ r.now then s.powerDown args r else .ok (s, none)

/-- What a turn of the main loop starts with: a reboot whose time has come. -/
def rebootIfDue (args : Args Time) (s : Sim Time) (r : Readings Time) :
    Except PushExn (Sim Time × Option (List UInt8)) :=
  match s.rebootAt with
  | none => .ok (s, none)
  | some at_ =>
    if at_ ≤ r.now then andThen (s.powerDown args r) fun s => s.applyPendingRebind r
    else .ok (s, none)

/-- A turn of the main loop, up to `tick`. -/
def turn (args : Args Time) (s : Sim Time) (r : Readings Time) :
    Except PushExn (Sim Time × Option (List UInt8)) :=
  andThen (s.rebootIfDue args r) fun s => s.withModel (s.model.tick r.now)

end Sim

/-! ## Reboots -/

namespace Core

variable {Time : Type} [Add Time] [LinearOrder Time]

/-- The LiDAR powers down and starts again. -/
def restart (args : Args Time) (c : Core Time) (now : Time) : Core Time :=
  let up := now + args.rebootSilence
  let m := c.model.forceState .kError now
  let m := if c.rebootFactory then m.factoryReset c.factoryLidarIpcfg now else m.reboot now
  { c with
    rebootAt := none
    rebootFactory := false
    silenceUntil := later c.silenceUntil up
    model := { m with stateDeadline := later m.stateDeadline up } }

/-- A reboot is due. -/
def Due (c : Core Time) (now : Time) : Prop :=
  ∃ at_ ∈ c.rebootAt, at_ ≤ now

/-- A reboot is asked for: the first request sets its time, and any of them makes it a
factory reset. -/
def ask (c : Core Time) (at_ : Time) (factory : Bool) : Core Time :=
  { c with
    rebootAt := some (c.rebootAt.getD at_)
    rebootFactory := c.rebootFactory || factory }

/-- How an event changes the device and its reboots. -/
inductive Change (args : Args Time) (now : Time) (c : Core Time) : Core Time → Prop
  | quiet : Change args now c c
  | configures (kvs : List (ℕ × List UInt8)) :
      Change args now c { c with model := (c.model.configure kvs now).2 }
  | asks (factory : Bool) (wait : ¬(c.ask (now + args.rebootDelay) factory).Due now) :
      Change args now c (c.ask (now + args.rebootDelay) factory)
  | restarts (factory : Bool) (due : (c.ask (now + args.rebootDelay) factory).Due now) :
      Change args now c ((c.ask (now + args.rebootDelay) factory).restart args now)
  | ticks (wait : ¬c.Due now) : Change args now c { c with model := c.model.tick now }
  | turns (due : c.Due now) :
      Change args now c
        { c.restart args now with model := (c.restart args now).model.tick now }
  | silences (seconds : Time) :
      Change args now c { c with silenceUntil := later c.silenceUntil (now + seconds) }
  | forces (new : WorkState) :
      Change args now c { c with model := c.model.forceState new now }
  | reports {m : DeviceModel Time} (settings : m.settings = c.model.settings) :
      Change args now c { c with model := m }

variable {args : Args Time} {now : Time} {c c' : Core Time}

theorem Change.factoryLidarIpcfg_eq (h : Change args now c c') :
    c'.factoryLidarIpcfg = c.factoryLidarIpcfg := by
  cases h <;> rfl

/-! ### The table -/

/-- Everything that is stored, or that a factory reset stores, can be written. -/
structure Acceptable (c : Core Time) : Prop where
  settings : c.model.settings.Acceptable
  factory : ∀ v ∈ c.factoryLidarIpcfg, Simulator.Acceptable KEY_LIDAR_IPCFG v.bytes

omit [Add Time] [LinearOrder Time] in
/-- So it is when the simulator starts at the address of a host. -/
theorem acceptable_new (h : IsOwnHost args.lidarIp) (model : DeviceModel Time) (zero : Time) :
    (Sim.new args model zero).toCore.Acceptable := by
  have hvalue := acceptable_ipcfg (ownIpcfg args.lidarIp).length_eq (lidarIpcfgValid_ownIpcfg h)
  refine ⟨Settings.acceptable_factory.store hvalue, fun v hv => ?_⟩
  cases hv
  exact hvalue

theorem Acceptable.restart (h : c.Acceptable) (now : Time) : (c.restart args now).Acceptable := by
  refine ⟨?_, h.factory⟩
  unfold Core.restart
  dsimp only
  split_ifs
  · exact DeviceModel.factoryReset_acceptable h.factory now
  · refine DeviceModel.reboot_acceptable ?_ now
    rw [DeviceModel.forceState_settings]
    exact h.settings

/-- Every event keeps it so. -/
theorem Acceptable.change (h : c.Acceptable) (hchange : Change args now c c') : c'.Acceptable := by
  refine ⟨?_, by rw [hchange.factoryLidarIpcfg_eq]; exact h.factory⟩
  cases hchange with
  | quiet => exact h.settings
  | configures kvs => exact DeviceModel.configure_acceptable h.settings kvs now
  | asks => exact h.settings
  | restarts factory =>
    have hask : (c.ask (now + args.rebootDelay) factory).Acceptable := ⟨h.settings, h.factory⟩
    exact (hask.restart now).settings
  | ticks =>
    rw [DeviceModel.tick_settings]
    exact h.settings
  | turns =>
    rw [DeviceModel.tick_settings]
    exact (h.restart now).settings
  | silences => exact h.settings
  | forces =>
    rw [DeviceModel.forceState_settings]
    exact h.settings
  | reports settings =>
    show Settings.Acceptable _
    rw [settings]
    exact h.settings

/-! ### A reboot that has been asked for -/

/-- The device starts again at `now`: it counts one more power-up, owes no reboot, is silent for
a while and, if `factory`, has its factory settings. -/
structure Restarted (args : Args Time) (factory : Bool) (now : Time) (c c' : Core Time) :
    Prop where
  powerups : c'.model.powerupCnt = c.model.powerupCnt + 1
  done : c'.rebootAt = none
  silent : now + args.rebootSilence ≤ c'.silenceUntil
  settings : factory = true → c'.model.settings = DeviceModel.resetSettings c.factoryLidarIpcfg

/-- A reboot is to come at `at_`, as a factory reset if `factory`. -/
structure Awaits (at_ : Time) (factory : Bool) (c : Core Time) : Prop where
  rebootAt : c.rebootAt = some at_
  factory : factory = true → c.rebootFactory = true

theorem restarted_restart (args : Args Time) (now : Time) {factory : Bool}
    (hfactory : factory = true → c.rebootFactory = true) :
    Restarted args factory now c (c.restart args now) where
  powerups := by
    unfold Core.restart
    dsimp only
    split_ifs <;> simp
  done := rfl
  silent := by
    change _ ≤ later _ _
    unfold later
    split_ifs with hup
    · exact le_rfl
    · exact not_lt.mp hup
  settings hf := by
    unfold Core.restart
    dsimp only
    rw [if_pos (hfactory hf), DeviceModel.factoryReset_settings]

omit [Add Time] [LinearOrder Time] in
theorem awaits_ask (c : Core Time) (at_ : Time) (factory : Bool) :
    Awaits (c.rebootAt.getD at_) factory (c.ask at_ factory) where
  rebootAt := rfl
  factory hf := by
    rw [ask, hf]
    exact Bool.or_true _

/-- **What an event does to a reboot that has been asked for**: it leaves it, or the device
starts again. -/
theorem Awaits.change {at_ : Time} {factory : Bool} (h : Awaits at_ factory c)
    (hchange : Change args now c c') :
    Awaits at_ factory c' ∨ Restarted args factory now c c' := by
  cases hchange with
  | asks =>
    refine .inl ⟨?_, fun hf => ?_⟩
    · rw [ask, h.rebootAt]
      rfl
    · rw [ask, h.factory hf]
      rfl
  | restarts factory' =>
    have hrestarted := restarted_restart (c := c.ask (now + args.rebootDelay) factory') args now
      fun hf => by rw [ask, h.factory hf]; rfl
    exact .inr ⟨hrestarted.powerups, rfl, hrestarted.silent, hrestarted.settings⟩
  | turns =>
    have hrestarted := restarted_restart args now h.factory
    refine .inr ⟨?_, rfl, hrestarted.silent, fun hf => ?_⟩
    · rw [DeviceModel.tick_powerupCnt, hrestarted.powerups]
    · rw [DeviceModel.tick_settings, hrestarted.settings hf]
  | _ => exact .inl ⟨h.rebootAt, h.factory⟩

/-- A reboot that was asked for until `last` comes within the delay. -/
def Scheduled (args : Args Time) (last : Time) (c : Core Time) : Prop :=
  ∀ at_ ∈ c.rebootAt, at_ ≤ last + args.rebootDelay

theorem Scheduled.ask [AddRightMono Time] {last : Time} (h : c.Scheduled args last)
    (hnow : now ≤ last) (factory : Bool) :
    (c.ask (now + args.rebootDelay) factory).Scheduled args last := by
  rintro at_ hat
  cases hat
  cases hold : c.rebootAt with
  | none => exact add_le_add_left hnow _
  | some at_ => exact h at_ hold

theorem Scheduled.change [AddRightMono Time] {last : Time} (h : c.Scheduled args last)
    (hnow : now ≤ last) (hchange : Change args now c c') : c'.Scheduled args last := by
  have hnone : ∀ c : Core Time, c.rebootAt = none → c.Scheduled args last := by
    intro c hc at_ hat
    rw [hc] at hat
    cases hat
  cases hchange with
  | asks factory => exact h.ask hnow factory
  | restarts => exact hnone _ rfl
  | turns => exact hnone _ rfl
  | _ => exact h

end Core

namespace Sim

variable {Time : Type} [Add Time] [LinearOrder Time] {args : Args Time} {s s' : Sim Time}
  {r : Readings Time} {push : Option (List UInt8)}

omit [Add Time] [LinearOrder Time] in
@[simp] theorem withModel_toCore (s : Sim Time) (m : DeviceModel Time) :
    (s.withModel m).toCore = { s.toCore with model := m } := rfl

omit [Add Time] [LinearOrder Time] in
@[simp] theorem applyPendingRebind_toCore (s : Sim Time) (r : Readings Time) :
    (s.applyPendingRebind r).toCore = s.toCore := by
  unfold applyPendingRebind
  split <;> rfl

omit [Add Time] in
theorem sendPush_toCore (h : s.sendPush r = .ok (s', push)) : s'.toCore = s.toCore := by
  unfold sendPush at h
  split at h
  · cases h
    rfl
  · dsimp only at h
    split at h
    · cases h
    · split at h
      · cases h
      · cases h
        rfl

theorem finishPowerDown_toCore (s : Sim Time) (factory : Bool) (now : Time) :
    (s.finishPowerDown args factory now).toCore =
      let up := now + args.rebootSilence
      let m := if factory then s.model.factoryReset s.factoryLidarIpcfg now
        else s.model.reboot now
      { s.toCore with
        silenceUntil := later s.silenceUntil up
        model := { m with stateDeadline := later m.stateDeadline up } } := by
  unfold finishPowerDown
  dsimp only
  split_ifs <;> rfl

omit [Add Time] [LinearOrder Time] in
theorem andThen_eq_ok {x : Except PushExn (Sim Time × Option (List UInt8))}
    {g : Sim Time → Sim Time} (h : andThen x g = .ok (s', push)) :
    ∃ s, x = .ok (s, push) ∧ s' = g s := by
  cases x with
  | error => cases h
  | ok p =>
    cases h
    exact ⟨p.1, rfl, rfl⟩

/-- **A power-down restarts the device.** -/
theorem powerDown_toCore (h : s.powerDown args r = .ok (s', push)) :
    s'.toCore = s.toCore.restart args r.now := by
  unfold powerDown at h
  dsimp only at h
  split_ifs at h
  · cases h
    rw [finishPowerDown_toCore]
    rfl
  · obtain ⟨s₁, hpush, rfl⟩ := andThen_eq_ok h
    have hcore := sendPush_toCore hpush
    rw [finishPowerDown_toCore]
    simp only [hcore]
    rfl

/-- A request is noted, and carried out at once if it is due. -/
theorem doReboot_cases {factory : Bool} (h : s.doReboot args factory r = .ok (s', push)) :
    let asked := s.toCore.ask (r.now + args.rebootDelay) factory
    ¬asked.Due r.now ∧ s'.toCore = asked ∨
      asked.Due r.now ∧ s'.toCore = asked.restart args r.now := by
  unfold doReboot at h
  dsimp only at h
  split_ifs at h with hdue
  · rw [powerDown_toCore h]
    exact .inr ⟨⟨_, rfl, hdue⟩, rfl⟩
  · cases h
    refine .inl ⟨?_, rfl⟩
    rintro ⟨at_, hat, hle⟩
    cases hat
    exact hdue hle

theorem doReboot_change {factory : Bool} (h : s.doReboot args factory r = .ok (s', push)) :
    Core.Change args r.now s.toCore s'.toCore := by
  obtain ⟨wait, hcore⟩ | ⟨due, hcore⟩ := doReboot_cases h
  · rw [hcore]
    exact .asks factory wait
  · rw [hcore]
    exact .restarts factory due

/-- A turn of the main loop ticks, after a restart if one is due. -/
theorem turn_cases (h : s.turn args r = .ok (s', push)) :
    ¬s.toCore.Due r.now ∧ s'.toCore = { s.toCore with model := s.model.tick r.now } ∨
      s.toCore.Due r.now ∧
        s'.toCore = { s.toCore.restart args r.now with
          model := (s.toCore.restart args r.now).model.tick r.now } := by
  obtain ⟨s₁, hreboot, rfl⟩ := andThen_eq_ok h
  rw [withModel_toCore]
  unfold rebootIfDue at hreboot
  split at hreboot
  · rename_i hnone
    cases hreboot
    refine .inl ⟨?_, rfl⟩
    rintro ⟨at_, hat, -⟩
    rw [hnone] at hat
    cases hat
  · rename_i at_ hat
    split_ifs at hreboot with hdue
    · obtain ⟨s₂, hdown, rfl⟩ := andThen_eq_ok hreboot
      have hcore : (s₂.applyPendingRebind r).toCore = s.toCore.restart args r.now := by
        rw [applyPendingRebind_toCore, powerDown_toCore hdown]
      rw [hcore]
      exact .inr ⟨⟨at_, hat, hdue⟩, rfl⟩
    · cases hreboot
      refine .inl ⟨?_, rfl⟩
      rintro ⟨at', hat', hle⟩
      rw [hat] at hat'
      obtain rfl := Option.some.inj hat'
      exact hdue hle

theorem turn_change (h : s.turn args r = .ok (s', push)) :
    Core.Change args r.now s.toCore s'.toCore := by
  obtain ⟨wait, hcore⟩ | ⟨due, hcore⟩ := turn_cases h
  · rw [hcore]
    exact .ticks wait
  · rw [hcore]
    exact .turns due

/-- A turn leaves no reboot that is due. -/
theorem turn_not_due (h : s.turn args r = .ok (s', push)) : ¬s'.toCore.Due r.now := by
  obtain ⟨wait, hcore⟩ | ⟨-, hcore⟩ := turn_cases h
  · rw [hcore]
    exact wait
  · rw [hcore]
    rintro ⟨at_, hat, -⟩
    cases hat

end Sim

end Simulator

end LivoxMid360
