import LivoxMid360.LidarInfo
import LivoxMid360.Simulator
import LivoxMid360.Session
import LivoxMid360.Protocol.Requests
import LivoxMid360.Lib.WhileLoop
import Mathlib.Data.Finset.Card
import Mathlib.Data.List.Find

/-!
# Reading the settings of a LiDAR that lacks some

`Device::settings` inquires all the settings keys at once.  Firmware that does not know one
of them refuses with `kParamNotSupport`; the session names a key that was not answered, and
`settings` asks again without it.

The loop is `settings`, over what its inquires meet one after the other (`Reply`): any
error of the connection or of the session, or any ACK.  Every turn but the last takes one key
off the list, so there are at most as many turns as keys and one more.

`InquiredModel.inquire` is how the simulator answers, after a measurement on a LiDAR: keys it
lacks are left out and the others are still answered.  Against such a device the key that is
named is the first one it lacks (`rejectedKey_inquire`), so every turn takes a key off that
would never have been answered, and none that would.

`settings_survives_unsupported_keys` has both results.
-/

namespace LivoxMid360

open LittleEndian CommandSession

inductive DeviceError.Kind where
  | kSession
  | kInvalidArgument
  | kInvalidState
  | kAlreadyRegistered
  | kNotOpen
  | kDisconnected
  | kDecodeFailed
  | kIo
deriving DecidableEq, Repr

/-- Errors of Device calls; `session` is the wrapped error of `kSession`. -/
structure DeviceError where
  kind : DeviceError.Kind := .kSession
  session : Option RequestError := none
deriving DecidableEq

namespace DeviceError

def wrap (e : RequestError) : DeviceError where
  kind := .kSession
  session := some e

def error (kind : Kind) : DeviceError where
  kind := kind

/-- The key a LiDAR has refused as unsupported. -/
def unsupportedKey (e : DeviceError) : Option UInt16 :=
  match e.kind, e.session with
  | .kSession, some s =>
    if s.kind = .kLidarRejected ∧ s.retCode = .kParamNotSupport then some s.errorKey else none
  | _, _ => none

end DeviceError

/-! ## The loop -/

/-- A count of 16 bits stays below the limit of `parse_key_value_list`. -/
theorem toInquireResult_isSome (ack : RawAck) (requested : List UInt16) :
    (toInquireResult ack requested).isSome = true := by
  rw [toInquireResult, Option.isSome_map]
  unfold parseParamInquireAck
  split
  · rfl
  · have hcount := (readLe UInt16 ack.data 1).toNat_lt
    rw [parseKeyValueList_eq (by rw [kKeyValueVectorMaxSize]; omega)]
    rfl

namespace Device

/-- What one inquire meets. -/
inductive Reply where
  /-- `check_connected` fails, before or under the lock. -/
  | disconnected
  /-- `Session::request` fails. -/
  | fails (e : RequestError)
  | ack (ack : RawAck)

/-- `Device::inquire`. -/
def inquire (keys : List UInt16) : Reply → Except DeviceError InquireResult
  | .disconnected => .error (.error .kDisconnected)
  | .fails e => .error (.wrap e)
  | .ack ack =>
    match (toInquireResult ack keys).get (toInquireResult_isSome ack keys) with
    | .error e => .error (.wrap e)
    | .ok r => .ok r

/-- The keys that `settings` asks for next, and the inquires it has made. -/
structure Asking where
  keys : List UInt16
  inquires : ℕ := 0

/-- What `settings` returns, and the inquires it has made. -/
structure Asked where
  result : Except DeviceError LidarSettings
  inquires : ℕ

/-- One turn of the loop in `settings`. -/
def settingsTurn (replies : ℕ → List UInt16 → Reply) (s : Asking) : Asking ⊕ Asked :=
  match inquire s.keys (replies s.inquires s.keys) with
  | .ok r => .inr ⟨.ok (decodeSettings r.values), s.inquires + 1⟩
  | .error e =>
    match e.unsupportedKey with
    | none => .inr ⟨.error e, s.inquires + 1⟩
    | some key =>
      if key ∈ s.keys then .inl ⟨s.keys.erase key, s.inquires + 1⟩
      else .inr ⟨.error e, s.inquires + 1⟩

variable {replies : ℕ → List UInt16 → Reply} {s : Asking}

/-- A turn that is not the last takes one of the keys off the list. -/
theorem settingsTurn_again {s' : Asking} (h : settingsTurn replies s = .inl s') :
    ∃ key ∈ s.keys, s' = ⟨s.keys.erase key, s.inquires + 1⟩ := by
  unfold settingsTurn at h
  split at h
  · exact absurd h (by simp)
  · split at h
    · exact absurd h (by simp)
    · split_ifs at h with hmem
      exact ⟨_, hmem, (Sum.inl.inj h).symm⟩

theorem settingsTurn_done {r : Asked} (h : settingsTurn replies s = .inr r) :
    r.inquires = s.inquires + 1 := by
  unfold settingsTurn at h
  split at h
  · rw [← Sum.inr.inj h]
  · split at h
    · rw [← Sum.inr.inj h]
    · split_ifs at h
      rw [← Sum.inr.inj h]

/-- The keys left and the inquires made are as many as before. -/
theorem settingsTurn_length {s' : Asking} (h : settingsTurn replies s = .inl s') :
    s'.keys.length + 1 = s.keys.length ∧ s'.inquires = s.inquires + 1 := by
  obtain ⟨key, hmem, rfl⟩ := settingsTurn_again h
  have hpos := List.length_pos_of_mem hmem
  refine ⟨?_, rfl⟩
  dsimp only
  rw [List.length_erase_of_mem hmem]
  omega

theorem settingsTurn_decreases (replies : ℕ → List UInt16 → Reply) :
    WhileLoop.Decreases (settingsTurn replies) fun s => s.keys.length := by
  intro s s' hturn
  have hlength := (settingsTurn_length hturn).1
  show s'.keys.length < s.keys.length
  omega

/-- The raw settings keys. -/
def settingsKeys : List UInt16 :=
  kSettingsKeys.map Key.raw

/-- `Device::settings`, its `n`-th inquire meeting `replies n`. -/
def settings (replies : ℕ → List UInt16 → Reply) : Asked :=
  WhileLoop.exec (settingsTurn replies) (fun s => s.keys.length) (settingsTurn_decreases replies)
    { keys := settingsKeys }

/-- **However the LiDAR answers**, there is one inquire more than there are keys at most. -/
theorem settings_inquires_le (replies : ℕ → List UInt16 → Reply) :
    (settings replies).inquires ≤ kSettingsKeys.length + 1 := by
  refine WhileLoop.exec_induction (settingsTurn_decreases replies)
    (I := fun s => s.inquires + s.keys.length = kSettingsKeys.length)
    (Q := fun r => r.inquires ≤ kSettingsKeys.length + 1) ?_ ?_ ?_
  · intro s s' hcount hturn
    obtain ⟨hlength, hinquires⟩ := settingsTurn_length hturn
    omega
  · intro s r hcount hturn
    rw [settingsTurn_done hturn]
    omega
  · simp [settingsKeys]

end Device

/-! ## The device model of the simulator -/

/-- `DeviceModel`, as far as `inquire` reads it. -/
structure InquiredModel where
  inquireOverrides : UInt16 → Option InquireRule
  readKey : UInt16 → UInt64 → Option (List UInt8)

namespace InquiredModel

/-- The value of a key that is not omitted. -/
def value (m : InquiredModel) (nowNs : UInt64) (key : UInt16) : Option (List UInt8) :=
  match m.inquireOverrides key with
  | some .unsupported => none
  | some (.value v) => some v
  | _ => m.readKey key nowNs

/-- One turn of the loop in `inquire`. -/
def inquireKey (m : InquiredModel) (nowNs : UInt64) (answer : RetCode × List KeyValue)
    (key : UInt16) : RetCode × List KeyValue :=
  if m.inquireOverrides key = some .omit then answer
  else
    match m.value nowNs key with
    | none => (.kParamNotSupport, answer.2)
    | some v => (answer.1, answer.2 ++ [⟨key, v⟩])

/-- `DeviceModel.inquire`. -/
def inquire (m : InquiredModel) (keys : List UInt16) (nowNs : UInt64) : RetCode × List KeyValue :=
  keys.foldl (m.inquireKey nowNs) (.kSuccess, [])

/-- The payload of the ACK: `struct.pack('<BH', ret, len(kvs)) + encode_kv_list(kvs)`. -/
def inquireAck (answer : RetCode × List KeyValue) : List UInt8 :=
  encodeLe answer.1.raw ++
    (encodeLe (UInt16.ofNat answer.2.length) ++ answer.2.flatMap KeyValue.bytes)

/-- The replies of the device to one inquire after the other. -/
def replies (m : InquiredModel) (nowNs : ℕ → UInt64) (seqNum : ℕ → UInt32) (n : ℕ)
    (keys : List UInt16) : Device.Reply :=
  .ack ⟨kParamInquire, seqNum n, inquireAck (m.inquire keys (nowNs n))⟩

/-- The device lacks the keys of `U` and answers all others, with a value that is not empty
and that the length field of an entry can hold. -/
structure Lacks (m : InquiredModel) (U : Finset UInt16) : Prop where
  notOmitted : ∀ key, m.inquireOverrides key ≠ some .omit
  unsupported : ∀ key ∈ U, ∀ nowNs, m.value nowNs key = none
  answered : ∀ key ∉ U, ∀ nowNs, ∃ v, m.value nowNs key = some v ∧ v ≠ [] ∧ v.length < 2 ^ 16

/-- The entry of a key that is answered. -/
def entry (m : InquiredModel) (nowNs : UInt64) (key : UInt16) : KeyValue where
  key := key
  value := (m.value nowNs key).getD []

variable {m : InquiredModel} {U : Finset UInt16} {nowNs : UInt64}

variable {key : UInt16}

theorem Lacks.entry_value (h : m.Lacks U) (hkey : key ∉ U) :
    (m.entry nowNs key).value ≠ [] ∧ (m.entry nowNs key).value.length < 2 ^ 16 := by
  obtain ⟨v, hvalue, hv⟩ := h.answered key hkey nowNs
  rw [entry, hvalue]
  exact hv

/-- **What the device answers**: the entries of the keys it has, in the order asked for. -/
theorem Lacks.inquire_eq (h : m.Lacks U) (keys : List UInt16) :
    m.inquire keys nowNs =
      (if ∃ key ∈ keys, key ∈ U then .kParamNotSupport else .kSuccess,
        (keys.filter (· ∉ U)).map (m.entry nowNs)) := by
  have hfold : ∀ answer : RetCode × List KeyValue, keys.foldl (m.inquireKey nowNs) answer =
      (if ∃ key ∈ keys, key ∈ U then .kParamNotSupport else answer.1,
        answer.2 ++ (keys.filter (· ∉ U)).map (m.entry nowNs)) := by
    induction keys with
    | nil => simp
    | cons key keys ih =>
      intro answer
      rw [List.foldl_cons, ih, inquireKey, if_neg (h.notOmitted key)]
      by_cases hkey : key ∈ U
      · rw [h.unsupported key hkey nowNs]
        simp [hkey]
      · obtain ⟨v, hvalue, -⟩ := h.answered key hkey nowNs
        simp [hkey, hvalue, entry]
  rw [inquire, hfold]
  simp

/-- The ACK is parsed to what the device answered. -/
theorem parseParamInquireAck_inquireAck {answer : RetCode × List KeyValue}
    (hcount : answer.2.length < 2 ^ 16) (hvalues : ∀ kv ∈ answer.2, kv.value.length < 2 ^ 16) :
    parseParamInquireAck (inquireAck answer) = some (.ok ⟨answer.1, answer.2⟩) := by
  have hlength : ¬(inquireAck answer).length < 3 := by
    simp only [inquireAck, List.length_append, encodeLe_length, size_uint8, size_uint16]
    omega
  have hret : readLe UInt8 (inquireAck answer) 0 = answer.1.raw := readLe_append_zero _ _
  have hread : (readLe UInt16 (inquireAck answer) 1).toNat = answer.2.length := by
    rw [inquireAck, readLe_append_of_le (by simp)]
    exact readLe_count hcount _
  have hdrop : (inquireAck answer).drop 3 = answer.2.flatMap KeyValue.bytes := by
    rw [inquireAck, ← List.append_assoc]
    exact List.drop_left' (by simp)
  rw [parseParamInquireAck, if_neg hlength, hread, hdrop, hret,
    parseKeyValueList_kvListBytes hcount hvalues]
  rfl

variable {keys : List UInt16}

/-- A requested key is answered if the device has it. -/
theorem Lacks.answered_iff (h : m.Lacks U) {k : UInt16} (hk : k ∈ keys) :
    ((keys.filter (· ∉ U)).map (m.entry nowNs)).any
      (fun kv => kv.key == k && !kv.value.isEmpty) = true ↔ k ∉ U := by
  rw [List.any_eq_true]
  constructor
  · rintro ⟨kv, mem, hkv⟩
    obtain ⟨k', hk', rfl⟩ := List.mem_map.mp mem
    rw [Bool.and_eq_true, beq_iff_eq] at hkv
    obtain rfl : k' = k := hkv.1
    exact of_decide_eq_true (List.mem_filter.mp hk').2
  · intro hkey
    refine ⟨m.entry nowNs k, List.mem_map_of_mem ?_, ?_⟩
    · exact List.mem_filter.mpr ⟨hk, decide_eq_true hkey⟩
    · have hvalue : (m.entry nowNs k).value ≠ [] := (h.entry_value hkey).1
      rw [Bool.and_eq_true, beq_iff_eq, Bool.not_eq_true', List.isEmpty_eq_false_iff]
      exact ⟨rfl, hvalue⟩

theorem exists_lacked (hfind : keys.find? (· ∈ U) = some key) : ∃ key ∈ keys, key ∈ U := by
  have hkey := List.find?_some hfind
  rw [decide_eq_true_iff] at hkey
  exact ⟨key, List.mem_of_find?_eq_some hfind, hkey⟩

theorem filter_of_none_lacked (hfind : keys.find? (· ∈ U) = none) :
    (∀ key ∈ keys, key ∉ U) ∧ keys.filter (· ∉ U) = keys ∧ keys.filter (· ∈ U) = [] := by
  have hall : ∀ key ∈ keys, key ∉ U := by
    intro key mem
    have hnot := List.find?_eq_none.mp hfind key mem
    rwa [decide_eq_true_iff] at hnot
  refine ⟨hall, List.filter_eq_self.mpr ?_, List.filter_eq_nil_iff.mpr ?_⟩
  · exact fun key mem => decide_eq_true (hall key mem)
  · intro key mem
    rw [decide_eq_true_iff]
    exact hall key mem

/-- **The key that is named** is the first one that the device lacks. -/
theorem Lacks.rejectedKey_inquire (h : m.Lacks U) (hfind : keys.find? (· ∈ U) = some key) :
    rejectedKey ⟨(m.inquire keys nowNs).1, (m.inquire keys nowNs).2⟩ keys = key := by
  have hmissing : ∀ k ∈ keys, (!((keys.filter (· ∉ U)).map (m.entry nowNs)).any
      fun kv => kv.key == k && !kv.value.isEmpty) = decide (k ∈ U) := by
    intro k hk
    rw [Bool.eq_iff_iff, Bool.not_eq_true', Bool.eq_false_iff, ne_eq, h.answered_iff hk,
      not_not, decide_eq_true_iff]
  rw [h.inquire_eq, if_pos (exists_lacked hfind), rejectedKey]
  dsimp only
  rw [if_pos rfl, List.find?_congr hmissing, hfind]
  rfl

/-! ## The loop against the device -/

section Loop

variable {nowNs : ℕ → UInt64} {seqNum : ℕ → UInt32} {s : Device.Asking}

/-- What one inquire meets. -/
theorem Lacks.toInquireResult_eq (h : m.Lacks U) {keys : List UInt16}
    (hcount : keys.length < 2 ^ 16) (cmdId : UInt16) (seq : UInt32) (now : UInt64) :
    toInquireResult ⟨cmdId, seq, inquireAck (m.inquire keys now)⟩ keys =
      some (match keys.find? (· ∈ U) with
        | some key => .error (CommandSession.rejected .kParamNotSupport key cmdId 0)
        | none => .ok
            { values := keys.map (m.entry now), raw := inquireAck (m.inquire keys now) }) := by
  have hentries : (m.inquire keys now).2 = (keys.filter (· ∉ U)).map (m.entry now) := by
    rw [h.inquire_eq]
  have hparse : parseParamInquireAck (inquireAck (m.inquire keys now)) =
      some (.ok ⟨(m.inquire keys now).1, (m.inquire keys now).2⟩) := by
    refine parseParamInquireAck_inquireAck ?_ ?_
    · rw [hentries, List.length_map]
      exact (List.length_filter_le _ _).trans_lt hcount
    · rw [hentries]
      intro kv mem
      obtain ⟨k, hk, rfl⟩ := List.mem_map.mp mem
      exact (h.entry_value (of_decide_eq_true (List.mem_filter.mp hk).2)).2
  rw [toInquireResult, hparse, Option.map_some]
  dsimp only
  cases hfind : keys.find? (· ∈ U) with
  | some =>
    have hret : (m.inquire keys now).1 = .kParamNotSupport := by
      rw [h.inquire_eq, if_pos (exists_lacked hfind)]
    rw [h.rejectedKey_inquire hfind, hret, if_pos (by decide)]
  | none =>
    obtain ⟨hall, hkeep, -⟩ := filter_of_none_lacked hfind
    have hret : (m.inquire keys now).1 = .kSuccess := by
      rw [h.inquire_eq, if_neg]
      rintro ⟨key, mem, hkey⟩
      exact hall key mem hkey
    rw [hret, if_neg (by simp), hentries, hkeep]

/-- **One turn** takes the first key off that the device lacks, or ends with its values. -/
theorem Lacks.settingsTurn_eq (h : m.Lacks U) (hcount : s.keys.length < 2 ^ 16) :
    Device.settingsTurn (m.replies nowNs seqNum) s =
      match s.keys.find? (· ∈ U) with
      | some key => .inl ⟨s.keys.erase key, s.inquires + 1⟩
      | none => .inr
          ⟨.ok (decodeSettings (s.keys.map (m.entry (nowNs s.inquires)))), s.inquires + 1⟩ := by
  have hget : (toInquireResult ⟨kParamInquire, seqNum s.inquires,
      inquireAck (m.inquire s.keys (nowNs s.inquires))⟩ s.keys).get
        (toInquireResult_isSome _ _) = _ :=
    Option.get_of_eq_some _ (h.toInquireResult_eq hcount _ _ _)
  unfold Device.settingsTurn Device.inquire replies
  dsimp only
  rw [hget]
  cases hfind : s.keys.find? (· ∈ U) with
  | some key =>
    have hmem := List.mem_of_find?_eq_some hfind
    have hkey : (DeviceError.wrap
        (CommandSession.rejected .kParamNotSupport key kParamInquire 0)).unsupportedKey =
          some key := rfl
    dsimp only
    rw [hkey]
    exact if_pos hmem
  | none => rfl

/-- The keys that `settings` still asks for: all that the device has, and some that it
lacks.  Each inquire took one of the latter off. -/
structure Pruned (U : Finset UInt16) (s : Device.Asking) : Prop where
  kept : s.keys.filter (· ∉ U) = Device.settingsKeys.filter (· ∉ U)
  dropped : s.inquires + (s.keys.filter (· ∈ U)).length =
    (Device.settingsKeys.filter (· ∈ U)).length
  length : s.keys.length ≤ kSettingsKeys.length

/-- Taking off the first key that the device lacks. -/
theorem Pruned.erase (h : Pruned U s) {key : UInt16} (hfind : s.keys.find? (· ∈ U) = some key) :
    Pruned U ⟨s.keys.erase key, s.inquires + 1⟩ := by
  obtain ⟨hkey, before, after, hkeys, hbefore⟩ := List.find?_eq_some_iff_append.mp hfind
  rw [decide_eq_true_iff] at hkey
  -- the list may hold a key twice as far as this lemma knows: it is the first that goes
  have hnot : key ∉ before := by
    intro mem
    have hother := hbefore key mem
    rw [decide_eq_true hkey] at hother
    exact absurd hother (by decide)
  have herase : s.keys.erase key = before ++ after := by
    rw [hkeys, List.erase_append_right _ hnot, List.erase_cons_head]
  obtain ⟨hkept, hdropped, hlength⟩ := h
  rw [hkeys] at hkept hdropped hlength
  have hfilter : (before ++ key :: after).filter (· ∈ U) =
      before.filter (· ∈ U) ++ key :: after.filter (· ∈ U) := by
    simp [hkey]
  rw [hfilter, List.length_append, List.length_cons] at hdropped
  rw [List.length_append, List.length_cons] at hlength
  constructor
  · rw [herase, ← hkept]
    simp [hkey]
  · rw [herase, List.filter_append, List.length_append]
    show s.inquires + 1 + _ = _
    omega
  · rw [herase, List.length_append]
    omega

/-- **The settings of a device that lacks the keys of `U`.** -/
theorem Lacks.settings_eq (h : m.Lacks U) (nowNs : ℕ → UInt64) (seqNum : ℕ → UInt32) :
    Device.settings (m.replies nowNs seqNum) =
      ⟨.ok (decodeSettings ((Device.settingsKeys.filter (· ∉ U)).map
          (m.entry (nowNs (Device.settingsKeys.filter (· ∈ U)).length)))),
        (Device.settingsKeys.filter (· ∈ U)).length + 1⟩ := by
  have hcount : ∀ {s : Device.Asking}, Pruned U s → s.keys.length < 2 ^ 16 := by
    intro s hpruned
    exact hpruned.length.trans_lt (by decide)
  refine WhileLoop.exec_induction (Device.settingsTurn_decreases _) (I := Pruned U)
    (Q := fun r => r = _) ?_ ?_ ?_
  · intro s s' hpruned hturn
    rw [h.settingsTurn_eq (hcount hpruned)] at hturn
    cases hfind : s.keys.find? (· ∈ U) with
    | some =>
      rw [hfind] at hturn
      obtain rfl := Sum.inl.inj hturn
      exact hpruned.erase hfind
    | none =>
      rw [hfind] at hturn
      exact absurd hturn (by simp)
  · intro s r hpruned hturn
    rw [h.settingsTurn_eq (hcount hpruned)] at hturn
    cases hfind : s.keys.find? (· ∈ U) with
    | some =>
      rw [hfind] at hturn
      exact absurd hturn (by simp)
    | none =>
      rw [hfind] at hturn
      obtain rfl := Sum.inr.inj hturn
      obtain ⟨-, hkeep, hnone⟩ := filter_of_none_lacked hfind
      have hinquires : s.inquires = (Device.settingsKeys.filter (· ∈ U)).length := by
        rw [← hpruned.dropped, hnone]
        rfl
      rw [← hpruned.kept, hkeep, hinquires]
  · exact ⟨rfl, Nat.zero_add _, by simp [Device.settingsKeys]⟩

end Loop

end InquiredModel

namespace Device

theorem settingsKeys_nodup : settingsKeys.Nodup := by decide

/-- **Settings survive unsupported keys.**  A device that lacks the keys of some set is asked
once for each settings key it lacks and once more, and the settings are those of the values
of all the settings keys it has, as they are at the last inquire.  Whatever a LiDAR answers
and however the inquires fail, there are at most as many as there are settings keys and one
more. -/
theorem settings_survives_unsupported_keys :
    (∀ (U : Finset UInt16) (m : InquiredModel) (nowNs : ℕ → UInt64) (seqNum : ℕ → UInt32),
      m.Lacks U →
      (settings (m.replies nowNs seqNum)).inquires = (U ∩ settingsKeys.toFinset).card + 1 ∧
      (settings (m.replies nowNs seqNum)).result =
        .ok (decodeSettings ((settingsKeys.filter (· ∉ U)).map
          (m.entry (nowNs (U ∩ settingsKeys.toFinset).card))))) ∧
    ∀ replies, (settings replies).inquires ≤ kSettingsKeys.length + 1 := by
  refine ⟨?_, settings_inquires_le⟩
  intro U m nowNs seqNum h
  have hcard : (U ∩ settingsKeys.toFinset).card = (settingsKeys.filter (· ∈ U)).length := by
    rw [← List.toFinset_card_of_nodup (settingsKeys_nodup.filter _), List.toFinset_filter,
      Finset.inter_comm, ← Finset.filter_mem_eq_inter]
    simp
  rw [hcard, h.settings_eq]
  exact ⟨rfl, rfl⟩

/-- A device from before key 0x002B, with a byte for every other key. -/
def olderDevice : InquiredModel where
  inquireOverrides key := if key = 0x002B then some .unsupported else none
  readKey _ _ := some [0]

theorem olderDevice_lacks : olderDevice.Lacks {0x002B} := by
  constructor
  · intro key
    rw [olderDevice]
    dsimp only
    split_ifs <;> simp
  · rintro key hkey nowNs
    obtain rfl := Finset.mem_singleton.mp hkey
    rfl
  · intro key hkey nowNs
    rw [Finset.mem_singleton] at hkey
    refine ⟨[0], ?_, by simp, by decide⟩
    simp [InquiredModel.value, olderDevice, hkey]

/-- It is asked twice. -/
theorem settings_survives_unsupported_keys_olderDevice :
    olderDevice.Lacks {0x002B} ∧
      (settings (olderDevice.replies (fun _ => 0) fun _ => 0)).inquires = 2 := by
  refine ⟨olderDevice_lacks, ?_⟩
  rw [(settings_survives_unsupported_keys.1 {0x002B} olderDevice (fun _ => 0) (fun _ => 0)
    olderDevice_lacks).1]
  decide

end Device

end LivoxMid360
