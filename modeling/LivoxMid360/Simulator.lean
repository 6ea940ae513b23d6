import LivoxMid360.Config
import LivoxMid360.Lib.ChangeLog
import LivoxMid360.ValueChecks
import Mathlib.Data.Finset.Insert

/-!
# The device model of the simulator

`DeviceModel` in `tools/livox_mid360_sim.py` is a simulated LiDAR without its sockets: a
table of parameters and a work-state machine.  The machine runs through SELFCHECK to IDLE
after power-on and then chases the state that `work_tgt_mode` requests; SELFCHECK and
MOTORSTARTUP take time and end at `state_deadline`.

The table is a `Settings`: the dictionary holds a value of the right length for every
writable key and for no other, and the target it holds can be requested.  So a lookup that
would raise a `KeyError` in Python cannot be written down.  `Settings.store` is where
`configure` writes; what it stores has passed the checks (`storable_of_check`).

Times are of any type with addition and a comparison; the source has floats.  The calls of
the `on_state` callback are kept as a list (`onState`), so that every state the machine
passes through is seen, also one it leaves within the same call.
-/

namespace LivoxMid360

open LittleEndian

/-- A rule of `inquire_overrides`. -/
inductive InquireRule where
  | omit
  | unsupported
  | value (v : List UInt8)
deriving DecidableEq

namespace Simulator

/-! ## Constants -/

/-- Requestable through `work_tgt_mode`; the other states are intermediate. -/
def WS_REQUESTABLE : List WorkState := [.kSampling, .kIdle, .kReady]

def RET_OK : RetCode := ⟨0x00⟩
def RET_NOT_PERMIT_NOW : RetCode := ⟨0x02⟩
def RET_OUT_OF_RANGE : RetCode := ⟨0x03⟩
def RET_PARAM_NOT_SUPPORT : RetCode := ⟨0x20⟩
def RET_PARAM_REBOOT_EFFECT : RetCode := ⟨0x21⟩
def RET_PARAM_INVALID_LEN : RetCode := ⟨0x23⟩

def KEY_PCL_DATA_TYPE : ℕ := 0x0000
def KEY_PATTERN_MODE : ℕ := 0x0001
def KEY_LIDAR_IPCFG : ℕ := 0x0004
def KEY_STATE_HOST : ℕ := 0x0005
def KEY_PCL_HOST : ℕ := 0x0006
def KEY_IMU_HOST : ℕ := 0x0007
def KEY_LOG_HOST : ℕ := 0x0009
def KEY_INSTALL_ATTITUDE : ℕ := 0x0012
def KEY_FOV0 : ℕ := 0x0015
def KEY_FOV1 : ℕ := 0x0016
def KEY_FOV_EN : ℕ := 0x0017
def KEY_DETECT_MODE : ℕ := 0x0018
def KEY_FUNC_IO : ℕ := 0x0019
def KEY_WORK_TGT_MODE : ℕ := 0x001A
def KEY_IMU_EN : ℕ := 0x001C
def KEY_SPEED_MODE : ℕ := 0x0021
def KEY_TIME_FILTER : ℕ := 0x0026
def KEY_PC_FREQ_MOD : ℕ := 0x0029
def KEY_IMU_SENSOR_CFG : ℕ := 0x002B
def KEY_SN : ℕ := 0x8000
def KEY_PRODUCT_INFO : ℕ := 0x8001
def KEY_VERSION_APP : ℕ := 0x8002
def KEY_VERSION_LOADER : ℕ := 0x8003
def KEY_VERSION_HW : ℕ := 0x8004
def KEY_MAC : ℕ := 0x8005
def KEY_CUR_WORK_STATE : ℕ := 0x8006
def KEY_CORE_TEMP : ℕ := 0x8007
def KEY_POWERUP_CNT : ℕ := 0x8008
def KEY_LOCAL_TIME : ℕ := 0x8009
def KEY_LAST_SYNC_TIME : ℕ := 0x800A
def KEY_TIME_OFFSET : ℕ := 0x800B
def KEY_TIME_SYNC_TYPE : ℕ := 0x800C
def KEY_DIAG_STATUS : ℕ := 0x800E
def KEY_FW_TYPE : ℕ := 0x8010
def KEY_HMS : ℕ := 0x8011

/-- The writable keys and their value lengths. -/
def writableTable : List (ℕ × ℕ) :=
  [(KEY_PCL_DATA_TYPE, 1), (KEY_PATTERN_MODE, 1), (KEY_LIDAR_IPCFG, 12), (KEY_STATE_HOST, 8),
    (KEY_PCL_HOST, 8), (KEY_IMU_HOST, 8), (KEY_LOG_HOST, 8), (KEY_INSTALL_ATTITUDE, 24),
    (KEY_FOV0, 20), (KEY_FOV1, 20), (KEY_FOV_EN, 1), (KEY_DETECT_MODE, 1),
    Prod.mk KEY_FUNC_IO 4,
    (KEY_WORK_TGT_MODE, 1), (KEY_IMU_EN, 1), (KEY_SPEED_MODE, 1), (KEY_TIME_FILTER, 1),
    (KEY_PC_FREQ_MOD, 1), (KEY_IMU_SENSOR_CFG, 3)]

/-- `WRITABLE_LEN`, a dictionary. -/
def WRITABLE_LEN (key : ℕ) : Option ℕ :=
  writableTable.lookup key

/-- `READ_ONLY`. -/
def READ_ONLY : List ℕ :=
  [KEY_SN, KEY_PRODUCT_INFO, KEY_VERSION_APP, KEY_VERSION_LOADER, KEY_VERSION_HW, KEY_MAC,
    KEY_CUR_WORK_STATE, KEY_CORE_TEMP, KEY_POWERUP_CNT, KEY_LOCAL_TIME, KEY_LAST_SYNC_TIME,
    KEY_TIME_OFFSET, KEY_TIME_SYNC_TYPE, KEY_DIAG_STATUS, KEY_FW_TYPE, KEY_HMS]

/-- `FACTORY_FOV`: `struct.pack('<iiiiI', 0, 0, -7, 52, 0)`. -/
def FACTORY_FOV : List UInt8 :=
  [0, 0, 0, 0, 0, 0, 0, 0, 0xF9, 0xFF, 0xFF, 0xFF, 52, 0, 0, 0, 0, 0, 0, 0]

/-- The dictionary `factory_settings` returns. -/
def factoryTable : List (ℕ × List UInt8) :=
  [(KEY_PCL_DATA_TYPE, [1]), (KEY_PATTERN_MODE, [0]),
    (KEY_LIDAR_IPCFG, [192, 168, 1, 100, 255, 255, 255, 0, 192, 168, 1, 1]),
    (KEY_STATE_HOST, List.replicate 8 0), (KEY_PCL_HOST, List.replicate 8 0),
    (KEY_IMU_HOST, List.replicate 8 0), (KEY_LOG_HOST, List.replicate 8 0),
    (KEY_INSTALL_ATTITUDE, List.replicate 24 0), (KEY_FOV0, FACTORY_FOV),
    (KEY_FOV1, FACTORY_FOV), (KEY_FOV_EN, [0]), (KEY_DETECT_MODE, [0]),
    Prod.mk KEY_FUNC_IO (List.replicate 4 0), (KEY_WORK_TGT_MODE, [WorkState.kSampling.raw]),
    (KEY_IMU_EN, [0]), (KEY_SPEED_MODE, [0]), (KEY_TIME_FILTER, [0]), (KEY_PC_FREQ_MOD, [0]),
    (KEY_IMU_SENSOR_CFG, List.replicate 3 0)]

/-! ## Settings -/

/-- The value is one `work_tgt_mode` may have. -/
def IsTarget (value : List UInt8) : Prop :=
  ∃ tgt ∈ WS_REQUESTABLE, value = [tgt.raw]

instance (value : List UInt8) : Decidable (IsTarget value) :=
  inferInstanceAs (Decidable (∃ tgt ∈ WS_REQUESTABLE, value = [tgt.raw]))

/-- `settings`: a value of the right length for every writable key, for no other key, and a
target that can be requested. -/
structure Settings where
  get : ℕ → Option (List UInt8)
  lengths : ∀ key, (get key).map List.length = WRITABLE_LEN key
  target : ∃ value, get KEY_WORK_TGT_MODE = some value ∧ IsTarget value

/-- The value may be stored under the key. -/
def Storable (key : ℕ) (value : List UInt8) : Prop :=
  WRITABLE_LEN key = some value.length ∧ (key = KEY_WORK_TGT_MODE → IsTarget value)

instance (key : ℕ) (value : List UInt8) : Decidable (Storable key value) :=
  inferInstanceAs (Decidable (_ ∧ _))

/-- `settings[key] = value`, for a value that has passed the checks. -/
def Settings.store (s : Settings) (key : ℕ) (value : List UInt8) : Settings :=
  if h : Storable key value then
    { get := Function.update s.get key (some value)
      lengths := by
        intro key'
        by_cases hkey : key' = key
        · subst hkey
          rw [Function.update_self, h.1]
          rfl
        · rw [Function.update_of_ne hkey]
          exact s.lengths key'
      target := by
        by_cases hkey : KEY_WORK_TGT_MODE = key
        · subst hkey
          exact ⟨value, Function.update_self .., h.2 rfl⟩
        · rw [Function.update_of_ne hkey]
          exact s.target }
  else s

/-- `table[key] = value` on a dictionary. -/
def put (table : ℕ → Option (List UInt8)) (e : ℕ × List UInt8) : ℕ → Option (List UInt8) :=
  Function.update table e.1 (some e.2)

/-- A list of entries that may be stored is written entry after entry. -/
theorem Settings.foldl_store_get (s : Settings) {kvs : List (ℕ × List UInt8)}
    (h : ∀ e ∈ kvs, Storable e.1 e.2) :
    (kvs.foldl (fun s e => s.store e.1 e.2) s).get = kvs.foldl put s.get := by
  induction kvs generalizing s with
  | nil => rfl
  | cons e kvs ih =>
    have hstore : (s.store e.1 e.2).get = put s.get e := by
      rw [store, dif_pos (h e (by simp))]
      rfl
    rw [List.foldl_cons, List.foldl_cons, ← hstore]
    exact ih _ fun e' he' => h e' (by simp [he'])

/-- A lookup in a dictionary whose values have been mapped. -/
theorem lookup_map {α β : Type} (f : α → β) (l : List (ℕ × α)) (key : ℕ) :
    (l.map fun e => (e.1, f e.2)).lookup key = (l.lookup key).map f := by
  induction l with
  | nil => rfl
  | cons e l ih =>
    rw [List.map_cons, List.lookup_cons, List.lookup_cons]
    cases key == e.1 with
    | true => rfl
    | false => exact ih

/-- `factory_settings`. -/
def factorySettings : Settings where
  get key := factoryTable.lookup key
  lengths key := (lookup_map List.length factoryTable key).symm
  target := ⟨[1], rfl, by decide⟩

/-! ## The model -/

/-- `LidarClock`, as far as the model reads and sets it. -/
structure LidarClock where
  syncType : ℤ := 0
  masterOffsetNs : ℤ := 0
  lastSyncNs : ℤ := 0
  offsetNs : ℤ := 0

/-- `LidarClock.power_on`. -/
def LidarClock.powerOn (_ : LidarClock) : LidarClock := {}

/-- `DeviceModel`. -/
structure DeviceModel (Time : Type) where
  /-- `sn.encode()`, by default `SIM0000000000001`. -/
  sn : List UInt8 := [83, 73, 77, 48, 48, 48, 48, 48, 48, 48, 48, 48, 48, 48, 48, 49]
  /-- `product_info.encode()`, by default `MID360-SIM`. -/
  productInfo : List UInt8 := [77, 73, 68, 51, 54, 48, 45, 83, 73, 77]
  versionApp : UInt8 × UInt8 × UInt8 × UInt8 := (0, 0, 0, 1)
  versionLoader : UInt8 × UInt8 × UInt8 × UInt8 := (0, 0, 0, 1)
  versionHardware : UInt8 × UInt8 × UInt8 × UInt8 := (0, 0, 0, 1)
  startupDelay : Time
  selfcheckDelay : Time
  imuCfgUnsupported : Bool := false
  unsupportedKeys : Finset ℕ := ∅
  settings : Settings := factorySettings
  workState : WorkState := .kSelfCheck
  hms : List ℤ := List.replicate 8 0
  clock : LidarClock := {}
  powerupCnt : ℤ := 1
  diagStatus : ℤ := 0
  coreTemp : ℤ := 3500
  pushOmit : Finset ℕ := ∅
  badTimeOffset : Bool := false
  inquireOverrides : ℕ → Option InquireRule := fun _ => none
  stateDeadline : Time
  /-- The calls of `on_state` so far: the old and the new state. -/
  onState : List (WorkState × WorkState) := []

namespace DeviceModel

variable {Time : Type}

/-! ### The checks of `configure` -/

/-- `unsupported`. -/
def unsupported (m : DeviceModel Time) (key : ℕ) : Bool :=
  key ∈ m.unsupportedKeys ∨ (key = KEY_IMU_SENSOR_CFG ∧ m.imuCfgUnsupported)

/-- The checks on one entry: the code it is rejected with, or `none`.  The bytes of the value
are looked at only when its length is right. -/
def check (m : DeviceModel Time) (key : ℕ) (value : List UInt8) : Option RetCode :=
  let byte := fun i => value.getD i 0
  if key ∈ READ_ONLY then some RET_PARAM_NOT_SUPPORT
  else if WRITABLE_LEN key = none then some RET_PARAM_NOT_SUPPORT
  else if m.unsupported key then some RET_PARAM_NOT_SUPPORT
  else if WRITABLE_LEN key ≠ some value.length then some RET_PARAM_INVALID_LEN
  else if key = KEY_PCL_DATA_TYPE ∧ byte 0 ∉ [1, 2, 3] then some RET_OUT_OF_RANGE
  else if key = KEY_PATTERN_MODE ∧ byte 0 > 2 then some RET_OUT_OF_RANGE
  else if key = KEY_LIDAR_IPCFG ∧ ¬Python.lidarIpcfgValid value then some RET_OUT_OF_RANGE
  else if (key = KEY_FOV0 ∨ key = KEY_FOV1) ∧ Python.fovInRange value ≠ .ok true then
    some RET_OUT_OF_RANGE
  else if key = KEY_FUNC_IO ∧ (byte 0 ≠ 0 ∨ byte 1 ≠ 0 ∨ byte 2 > 2 ∨ byte 3 > 2) then
    some RET_OUT_OF_RANGE
  else if (key = KEY_DETECT_MODE ∨ key = KEY_TIME_FILTER) ∧ byte 0 > 1 then
    some RET_OUT_OF_RANGE
  else if key = KEY_IMU_SENSOR_CFG ∧ (byte 0 > 3 ∨ byte 1 > 3 ∨ byte 2 > 7) then
    some RET_OUT_OF_RANGE
  else if key = KEY_WORK_TGT_MODE then
    if m.workState = .kError ∨ m.workState = .kUpgrade then some RET_NOT_PERMIT_NOW
    else if ∀ s ∈ WS_REQUESTABLE, byte 0 ≠ s.raw then some RET_OUT_OF_RANGE
    else none
  else none

/-- The first loop of `configure`: the code and the key of the first entry that is rejected. -/
def validate (m : DeviceModel Time) (kvs : List (ℕ × List UInt8)) : Option (RetCode × ℕ) :=
  kvs.findSome? fun e => (m.check e.1 e.2).map fun ret => (ret, e.1)

/-- One check passes, and so do those behind it. -/
theorem ite_some_eq_none_iff {c : Prop} [Decidable c] {ret : RetCode} {rest : Option RetCode} :
    (if c then some ret else rest) = none ↔ ¬c ∧ rest = none := by
  by_cases hc : c <;> simp [hc]

section Checks

variable {m : DeviceModel Time} {key : ℕ} {value : List UInt8}

/-- An entry that passes the checks may be stored. -/
theorem storable_of_check (h : m.check key value = none) : Storable key value := by
  unfold check at h
  dsimp only at h
  simp only [ite_some_eq_none_iff] at h
  obtain ⟨-, -, -, hlength, -, -, -, -, -, -, -, htgt⟩ := h
  have hlength := not_not.mp hlength
  refine ⟨hlength, fun hkey => ?_⟩
  subst hkey
  rw [if_pos rfl, ite_some_eq_none_iff, ite_some_eq_none_iff] at htgt
  obtain ⟨-, hrange, -⟩ := htgt
  push Not at hrange
  obtain ⟨tgt, htgt, hbyte⟩ := hrange
  have hone : value.length = 1 := (Option.some.inj hlength).symm
  obtain ⟨b, rfl⟩ := List.length_eq_one_iff.mp hone
  exact ⟨tgt, htgt, congrArg (fun c => [c]) hbyte⟩

/-- So may every entry of a list that is accepted. -/
theorem storable_of_validate {kvs : List (ℕ × List UInt8)} (h : m.validate kvs = none) :
    ∀ e ∈ kvs, Storable e.1 e.2 := by
  intro e he
  exact storable_of_check (Option.map_eq_none_iff.mp (List.findSome?_eq_none_iff.mp h e he))

end Checks

/-! ### The work-state machine -/

/-- `_set_state`. -/
def setState (m : DeviceModel Time) (new : WorkState) : DeviceModel Time :=
  let old := m.workState
  if old ≠ new then { m with workState := new, onState := m.onState ++ [(old, new)] } else m

@[simp] theorem setState_settings (m : DeviceModel Time) (s : WorkState) :
    (m.setState s).settings = m.settings := by
  unfold setState
  dsimp only
  split_ifs <;> rfl

@[simp] theorem setState_workState (m : DeviceModel Time) (s : WorkState) :
    (m.setState s).workState = s := by
  unfold setState
  dsimp only
  split_ifs with hne
  · rfl
  · exact not_not.mp hne

/-- `timed`. -/
def timed (m : DeviceModel Time) : Bool :=
  m.workState = .kSelfCheck ∨ m.workState = .kMotorStartup

/-- `settings[KEY_WORK_TGT_MODE][0]`. -/
def workTgtMode (m : DeviceModel Time) : UInt8 :=
  ((m.settings.get KEY_WORK_TGT_MODE).getD []).headD 0

/-- `target_state`. -/
def targetState (m : DeviceModel Time) : WorkState :=
  let tgt := m.workTgtMode
  (WS_REQUESTABLE.find? fun s => s.raw == tgt).getD .kIdle

/-- The target is one that can be requested, and the one the table holds. -/
theorem targetState_spec (m : DeviceModel Time) :
    m.targetState ∈ WS_REQUESTABLE ∧
      m.settings.get KEY_WORK_TGT_MODE = some [m.targetState.raw] := by
  obtain ⟨value, hget, tgt, htgt, rfl⟩ := m.settings.target
  have hmode : m.workTgtMode = tgt.raw := by rw [workTgtMode, hget]; rfl
  have htarget : m.targetState = tgt := by
    have hfind : ∀ s ∈ WS_REQUESTABLE,
        (WS_REQUESTABLE.find? fun s' => s'.raw == s.raw).getD .kIdle = s := by decide
    rw [targetState, hmode]
    exact hfind tgt htgt
  rw [htarget]
  exact ⟨htgt, hget⟩

variable [Add Time]

/-- `_enter_timed`. -/
def enterTimed (m : DeviceModel Time) (state : WorkState) (now : Time) : DeviceModel Time :=
  let m := m.setState state
  let delay := if state = .kSelfCheck then m.selfcheckDelay else m.startupDelay
  { m with stateDeadline := now + delay }

/-- `power_on`. -/
def powerOn (m : DeviceModel Time) (now : Time) : DeviceModel Time :=
  { m with clock := m.clock.powerOn }.enterTimed .kSelfCheck now

/-- `_follow_target`. -/
def followTarget (m : DeviceModel Time) (now : Time) : DeviceModel Time :=
  let tgt := m.targetState
  let m :=
    -- at most one edge out of IDLE or SAMPLING
    if m.workState = .kIdle ∧ (tgt = .kSampling ∨ tgt = .kReady) then
      m.enterTimed .kMotorStartup now
    else if m.workState = .kSampling ∧ (tgt = .kIdle ∨ tgt = .kReady) then m.setState .kReady
    else m
  -- READY is passed through within the same call
  if m.workState = .kReady ∧ (tgt = .kSampling ∨ tgt = .kIdle) then m.setState tgt else m

/-- `tick`. -/
def tick [LE Time] [DecidableLE Time] (m : DeviceModel Time) (now : Time) : DeviceModel Time :=
  let m :=
    if m.timed ∧ m.stateDeadline ≤ now then
      m.setState (if m.workState = .kSelfCheck then .kIdle else .kReady)
    else m
  m.followTarget now

/-- `self.settings[key] = bytes(value)`. -/
def store (m : DeviceModel Time) (e : ℕ × List UInt8) : DeviceModel Time :=
  { m with settings := m.settings.store e.1 e.2 }

/-- One turn of the second loop of `configure`. -/
def apply (now : Time) (state : RetCode × DeviceModel Time) (entry : ℕ × List UInt8) :
    RetCode × DeviceModel Time :=
  let (ret, m) := state
  let (key, value) := entry
  let changed := m.settings.get key ≠ some value
  let m := m.store entry
  let ret := if key = KEY_LIDAR_IPCFG ∧ changed then RET_PARAM_REBOOT_EFFECT else ret
  let m :=
    if key = KEY_PATTERN_MODE ∧ changed ∧ (m.workState = .kSampling ∨ m.workState = .kReady) then
      m.enterTimed .kMotorStartup now
    else m
  (ret, m)

/-- `configure`: the code with the key it is about, and the model. -/
def configure (m : DeviceModel Time) (kvs : List (ℕ × List UInt8)) (now : Time) :
    (RetCode × ℕ) × DeviceModel Time :=
  match m.validate kvs with
  | some error => (error, m)
  | none =>
    -- nothing is stored before every entry has passed
    let (ret, m) := kvs.foldl (apply now) (RET_OK, m)
    ((ret, 0), m.followTarget now)

@[simp] theorem enterTimed_settings (m : DeviceModel Time) (s : WorkState) (now : Time) :
    (m.enterTimed s now).settings = m.settings :=
  setState_settings m s

@[simp] theorem enterTimed_workState (m : DeviceModel Time) (s : WorkState) (now : Time) :
    (m.enterTimed s now).workState = s :=
  setState_workState m s

@[simp] theorem followTarget_settings (m : DeviceModel Time) (now : Time) :
    (m.followTarget now).settings = m.settings := by
  unfold followTarget
  dsimp only
  split_ifs <;> simp

/-! ### What `configure` does -/

section Configure

variable (now : Time)

/-- A turn of the second loop: the entry is stored, and a changed scan pattern restarts a
motor that runs. -/
theorem apply_cases (ret : RetCode) (m : DeviceModel Time) (e : ℕ × List UInt8) :
    ((apply now (ret, m) e).1 = ret ∨ (apply now (ret, m) e).1 = RET_PARAM_REBOOT_EFFECT) ∧
    ((apply now (ret, m) e).2 = m.store e ∨
      e.1 = KEY_PATTERN_MODE ∧ (m.workState = .kSampling ∨ m.workState = .kReady) ∧
      (apply now (ret, m) e).2 = (m.store e).enterTimed .kMotorStartup now) := by
  unfold apply
  dsimp only
  refine ⟨?_, ?_⟩
  · split_ifs
    · exact .inr rfl
    · exact .inl rfl
  · split_ifs with hrestart
    · exact .inr ⟨hrestart.1, hrestart.2.2, rfl⟩
    · exact .inl rfl

theorem apply_settings (ret : RetCode) (m : DeviceModel Time) (e : ℕ × List UInt8) :
    (apply now (ret, m) e).2.settings = m.settings.store e.1 e.2 := by
  obtain ⟨-, hsame | ⟨-, -, hrestart⟩⟩ := apply_cases now ret m e
  · rw [hsame]
    rfl
  · rw [hrestart, enterTimed_settings]
    rfl

/-- The second loop returns one of the two codes that accept. -/
theorem foldl_apply_ret (ret : RetCode) (m : DeviceModel Time) (kvs : List (ℕ × List UInt8)) :
    (kvs.foldl (apply now) (ret, m)).1 = ret ∨
      (kvs.foldl (apply now) (ret, m)).1 = RET_PARAM_REBOOT_EFFECT := by
  induction kvs generalizing ret m with
  | nil => exact .inl rfl
  | cons e kvs ih =>
    obtain hkvs | hkvs := ih (apply now (ret, m) e).1 (apply now (ret, m) e).2
    · obtain hret | hret := (apply_cases now ret m e).1
      · exact .inl (hkvs.trans hret)
      · exact .inr (hkvs.trans hret)
    · exact .inr hkvs

/-- The second loop writes its list into the table, entry after entry. -/
theorem foldl_apply_settings (ret : RetCode) (m : DeviceModel Time)
    (kvs : List (ℕ × List UInt8)) :
    (kvs.foldl (apply now) (ret, m)).2.settings =
      kvs.foldl (fun s e => s.store e.1 e.2) m.settings := by
  induction kvs generalizing ret m with
  | nil => rfl
  | cons e kvs ih =>
    rw [List.foldl_cons, List.foldl_cons, ← apply_settings now ret m e]
    exact ih _ _

/-- **What `configure` does**: it rejects the list and changes nothing, or it answers that it
has accepted the list, writes all of it into the table and follows the target. -/
theorem configure_cases (m : DeviceModel Time) (kvs : List (ℕ × List UInt8)) :
    (∃ error, m.configure kvs now = (error, m)) ∨
      ((m.configure kvs now).1.1 = RET_OK ∨
        (m.configure kvs now).1.1 = RET_PARAM_REBOOT_EFFECT) ∧
      (m.configure kvs now).2.settings.get = kvs.foldl put m.settings.get ∧
      (m.configure kvs now).2 = (kvs.foldl (apply now) (RET_OK, m)).2.followTarget now := by
  unfold configure
  cases hvalid : m.validate kvs with
  | some error => exact .inl ⟨error, rfl⟩
  | none =>
    refine .inr ⟨foldl_apply_ret now RET_OK m kvs, ?_, rfl⟩
    dsimp only
    rw [followTarget_settings, foldl_apply_settings]
    exact m.settings.foldl_store_get (storable_of_validate hvalid)

end Configure

end DeviceModel

end Simulator

end LivoxMid360
