import LivoxMid360.LidarInfo
import LivoxMid360.Lib.ChangeLog
import LivoxMid360.Protocol.Requests
import Mathlib.Data.List.Sort

/-!
# The state push

The LiDAR pushes its status keys all the time, not all of them in every push.
`on_push` in `device.cpp` merges each push into the status the Device keeps: a key that
a push lacks, or whose value does not decode, keeps its value.  Three of the fields also
raise events when they change, and each of the three detectors has its own baseline: the
work state has none, the diagnostic status starts all normal, and the codes all zero.

`PushState` is what `on_push` writes, together with the events it has raised, in the order
in which they are handed to the event callback.  Counters are natural numbers.  The state of
the connection, which `on_push` only reads, comes with the datagram.

* `MergedFrom`: every field of the status is the last one that was present in an accepted
  push.
* `onPush_eq`: a datagram that is not an accepted push changes `bad_packets` only.
* `push_fold` — **the status is the fold of the pushes**, and the events of the work state
  and of the diagnostic status are chains of changes, from the first state and from "all
  normal" to the current value.
-/

namespace LivoxMid360

open LittleEndian ChangeLog

/-! ## The events and the state -/

/-- The events `on_push` raises, with the fields their kind uses. -/
inductive PushEvent where
  | stateChanged (timeNs : UInt64) (oldState newState : WorkState)
  | hms (timeNs : UInt64) (hms : Vector HmsCode 8) (level : HmsLevel)
  | diagChanged (timeNs : UInt64) (diagOld diagNew : DiagStatus)
deriving DecidableEq

/-- A datagram on the push port, and what `on_push` reads besides. -/
structure PushDatagram where
  data : List UInt8
  recvTimeNs : UInt64 := 0
  steadyNow : Int64 := 0
  connected : Bool := true
  rebootSent : Bool := false

/-- What `on_push` writes. -/
structure PushState where
  pushedStatus : Option LidarStatus := none
  hmsSorted : List UInt32 := List.replicate 8 0
  diagSeen : DiagStatus := {}
  badPackets : ℕ := 0
  pushes : ℕ := 0
  lastPushTimeNs : UInt64 := 0
  lastPushSteadyNs : Int64 := 0
  rebootDown : Bool := false
  rebaseRequested : Bool := false
  /-- The events raised so far. -/
  events : List PushEvent := []

/-- `CmdId::kInfoPush`. -/
def kInfoPush : UInt16 := 0x0102

/-- `carry_over`: every field `next` lacks takes the value of `prev`. -/
def LidarStatus.carryOver (next prev : LidarStatus) : LidarStatus :=
  { next with
    curWorkState := next.curWorkState.or prev.curWorkState
    coreTemp := next.coreTemp.or prev.coreTemp
    powerupCnt := next.powerupCnt.or prev.powerupCnt
    localTimeNow := next.localTimeNow.or prev.localTimeNow
    lastSyncTime := next.lastSyncTime.or prev.lastSyncTime
    timeOffset := next.timeOffset.or prev.timeOffset
    timeSyncType := next.timeSyncType.or prev.timeSyncType
    lidarDiagStatus := next.lidarDiagStatus.or prev.lidarDiagStatus
    fwType := next.fwType.or prev.fwType
    hmsCode := next.hmsCode.or prev.hmsCode }

/-- States a LiDAR passes through when it powers down or starts over. -/
def restarting (s : WorkState) : Bool :=
  s = .kError || s = .kSelfCheck || s = .kMotorStartup

/-- The raw codes of the slots, sorted. -/
def sortedCodes (hms : Vector HmsCode 8) : List UInt32 :=
  (hms.toList.map HmsCode.raw).insertionSort (· ≤ ·)

/-- The loop over the slots that fills `hms_level`. -/
def highestLevel (hms : Vector HmsCode 8) : HmsLevel :=
  hms.toList.foldl (fun level c => if c.active ∧ c.level.raw > level.raw then c.level else level)
    .kNone

/-! ## `on_push` -/

namespace PushState

/-- The status after an accepted push. -/
def next (s : PushState) (d : PushDatagram) (values : List KeyValue) : LidarStatus :=
  let next := { decodeStatus values with timeNs := d.recvTimeNs }
  match s.pushedStatus with
  | some prev => next.carryOver prev
  | none => next

/-- The old and the new work state, if there are two that differ. -/
def stateChange (s : PushState) (next : LidarStatus) : Option (WorkState × WorkState) :=
  match next.curWorkState, s.pushedStatus.bind LidarStatus.curWorkState with
  | some new, some old => if old ≠ new then some (old, new) else none
  | _, _ => none

/-- The slots that are reported, if the codes have changed. -/
def hmsChange (s : PushState) (next : LidarStatus) : Option (Vector HmsCode 8) :=
  match next.hmsCode with
  | some hms => if sortedCodes hms ≠ s.hmsSorted then some hms else none
  | none => none

/-- The new diagnostic status, if it has changed. -/
def diagChange (s : PushState) (next : LidarStatus) : Option DiagStatus :=
  match next.lidarDiagStatus with
  | some diag => if diag ≠ s.diagSeen then some diag else none
  | none => none

/-- `on_push` from the parsed push on. -/
def accept (s : PushState) (d : PushDatagram) (values : List KeyValue) : PushState :=
  let next := s.next d values
  let state := s.stateChange next
  let hms := s.hmsChange next
  let diag := s.diagChange next
  { s with
    pushedStatus := some next
    hmsSorted := (hms.map sortedCodes).getD s.hmsSorted
    diagSeen := diag.getD s.diagSeen
    pushes := s.pushes + 1
    lastPushTimeNs := d.recvTimeNs
    lastPushSteadyNs := d.steadyNow
    rebootDown := s.rebootDown || (state.any fun (_, new) => new = .kError && d.rebootSent)
    rebaseRequested :=
      s.rebaseRequested || (state.any fun (_, new) => !d.connected && restarting new)
    events := s.events ++ (state.map fun (old, new) => .stateChanged d.recvTimeNs old new).toList ++
      (hms.map fun hms => .hms d.recvTimeNs hms (highestLevel hms)).toList ++
      (diag.map fun diag => .diagChanged d.recvTimeNs s.diagSeen diag).toList }

def reject (s : PushState) : PushState :=
  { s with badPackets := s.badPackets + 1 }

/-- `on_push`. -/
def onPush (s : PushState) (d : PushDatagram) : PushState :=
  match parseCommandFrame d.data with
  | .error _ => s.reject
  | .ok frame =>
    if frame.header.cmdId ≠ kInfoPush then s.reject
    else match parseInfoPush frame.data with
      | some (.ok values) => s.accept d values
      | some (.error _) => s.reject
      -- never taken (`parseInfoPush_ne_none`)
      | none => s

/-- The state after a sequence of datagrams. -/
def run (ds : List PushDatagram) : PushState :=
  ds.foldl onPush {}

end PushState

/-- The entries of a datagram that is an accepted push. -/
def acceptedPush (d : PushDatagram) : Option (List KeyValue) :=
  match parseCommandFrame d.data with
  | .error _ => none
  | .ok frame =>
    if frame.header.cmdId ≠ kInfoPush then none
    else match parseInfoPush frame.data with
      | some (.ok values) => some values
      | _ => none

/-- **A datagram is an accepted push, or it changes `bad_packets` only.** -/
theorem onPush_eq (s : PushState) (d : PushDatagram) :
    s.onPush d = match acceptedPush d with
      | some values => s.accept d values
      | none => s.reject := by
  unfold PushState.onPush acceptedPush
  cases parseCommandFrame d.data with
  | error => rfl
  | ok frame =>
    dsimp only
    split
    · rfl
    · cases hpush : parseInfoPush frame.data with
      | none => exact absurd hpush (parseInfoPush_ne_none _)
      | some result => cases result <;> rfl

variable (ds : List PushDatagram)

theorem run_concat (d : PushDatagram) : PushState.run (ds ++ [d]) = (PushState.run ds).onPush d :=
  List.foldl_concat ..

/-- The frame in which a LiDAR pushes these entries. -/
def pushFrame (kvs : List KeyValue) : CommandFrameSpec where
  cmdId := kInfoPush
  senderType := .kLidar
  data := encodeParamConfigRequest kvs

def pushDatagram (kvs : List KeyValue) : PushDatagram where
  data := commandWire (pushFrame kvs)

/-- It is accepted, if the entries fit into a frame. -/
theorem acceptedPush_pushDatagram {kvs : List KeyValue}
    (hsize : 4 + kvListSize kvs ≤ kCommandDataMaxSize) :
    acceptedPush (pushDatagram kvs) = some kvs := by
  have hlength := encodeParamConfigRequest_length kvs
  have hparse : parseCommandFrame (pushDatagram kvs).data =
      .ok ⟨(pushFrame kvs).header, encodeParamConfigRequest kvs⟩ := by
    rw [pushDatagram, ← List.append_nil (commandWire _)]
    exact parseCommandFrame_commandWire [] (hlength.trans_le hsize)
  have hcount : kvs.length < 2 ^ 16 := by
    have := four_mul_length_le_kvListSize kvs
    rw [kCommandDataMaxSize, kCommandFrameMaxSize, kCommandHeaderSize] at hsize
    omega
  have hvalues : ∀ kv ∈ kvs, kv.value.length < 2 ^ 16 := by
    intro kv hkv
    have := value_length_le_kvListSize hkv
    rw [kCommandDataMaxSize, kCommandFrameMaxSize, kCommandHeaderSize] at hsize
    omega
  have hpush := parseInfoPush_encodeParamConfigRequest hcount hvalues
  simp only [acceptedPush, hparse, hpush]
  rfl

/-! ## The status -/

/-- A field of the kept status; empty before the first push. -/
def PushState.field {α : Type} (s : PushState) (get : LidarStatus → Option α) : Option α :=
  s.pushedStatus.bind get

/-- A field of the status after an accepted push. -/
theorem field_accept {α : Type} (get : LidarStatus → Option α)
    (hcarry : ∀ next prev : LidarStatus, get (next.carryOver prev) = (get next).or (get prev))
    (htime : ∀ (s : LidarStatus) t, get { s with timeNs := t } = get s)
    (s : PushState) (d : PushDatagram) (values : List KeyValue) :
    (s.accept d values).field get = (get (decodeStatus values)).or (s.field get) := by
  change get (s.next d values) = _
  unfold PushState.next PushState.field
  cases s.pushedStatus with
  | none => simp [htime]
  | some => simp [htime, hcarry]

/-- Every field of the status is the last one present in the pushes. -/
structure MergedFrom (pushes : List (List KeyValue)) (s : PushState) : Prop where
  curWorkState : s.field LidarStatus.curWorkState =
    latest (pushes.map (decodeOpt .kCurWorkState decodeWorkState))
  coreTemp : s.field LidarStatus.coreTemp = latest (pushes.map (decodeOpt .kCoreTemp decodeI32))
  powerupCnt : s.field LidarStatus.powerupCnt =
    latest (pushes.map (decodeOpt .kPowerupCnt decodeU32))
  localTimeNow : s.field LidarStatus.localTimeNow =
    latest (pushes.map (decodeOpt .kLocalTimeNow decodeU64))
  lastSyncTime : s.field LidarStatus.lastSyncTime =
    latest (pushes.map (decodeOpt .kLastSyncTime decodeU64))
  timeOffset : s.field LidarStatus.timeOffset =
    latest (pushes.map (decodeOpt .kTimeOffset decodeI64))
  timeSyncType : s.field LidarStatus.timeSyncType =
    latest (pushes.map (decodeOpt .kTimeSyncType decodeTimeSyncType))
  lidarDiagStatus : s.field LidarStatus.lidarDiagStatus =
    latest (pushes.map (decodeOpt .kLidarDiagStatus decodeDiagStatus))
  fwType : s.field LidarStatus.fwType = latest (pushes.map (decodeOpt .kFwType decodeFwType))
  hmsCode : s.field LidarStatus.hmsCode = latest (pushes.map (decodeOpt .kHmsCode decodeHmsSlots))

variable {s : PushState}

/-- One more push. -/
theorem MergedFrom.accept {pushes : List (List KeyValue)} (h : MergedFrom pushes s)
    (d : PushDatagram) (values : List KeyValue) :
    MergedFrom (pushes ++ [values]) (s.accept d values) := by
  have hfield {α : Type} (get : LidarStatus → Option α)
      (hcarry : ∀ next prev : LidarStatus, get (next.carryOver prev) = (get next).or (get prev))
      (htime : ∀ (s : LidarStatus) t, get { s with timeNs := t } = get s)
      (hget : s.field get = latest (pushes.map fun kvs => get (decodeStatus kvs))) :
      (s.accept d values).field get =
        latest ((pushes ++ [values]).map fun kvs => get (decodeStatus kvs)) := by
    rw [field_accept get hcarry htime, hget, List.map_append, List.map_singleton, latest_concat]
  constructor
  · exact hfield LidarStatus.curWorkState (fun _ _ => rfl) (fun _ _ => rfl) h.curWorkState
  · exact hfield LidarStatus.coreTemp (fun _ _ => rfl) (fun _ _ => rfl) h.coreTemp
  · exact hfield LidarStatus.powerupCnt (fun _ _ => rfl) (fun _ _ => rfl) h.powerupCnt
  · exact hfield LidarStatus.localTimeNow (fun _ _ => rfl) (fun _ _ => rfl) h.localTimeNow
  · exact hfield LidarStatus.lastSyncTime (fun _ _ => rfl) (fun _ _ => rfl) h.lastSyncTime
  · exact hfield LidarStatus.timeOffset (fun _ _ => rfl) (fun _ _ => rfl) h.timeOffset
  · exact hfield LidarStatus.timeSyncType (fun _ _ => rfl) (fun _ _ => rfl) h.timeSyncType
  · exact hfield LidarStatus.lidarDiagStatus (fun _ _ => rfl) (fun _ _ => rfl) h.lidarDiagStatus
  · exact hfield LidarStatus.fwType (fun _ _ => rfl) (fun _ _ => rfl) h.fwType
  · exact hfield LidarStatus.hmsCode (fun _ _ => rfl) (fun _ _ => rfl) h.hmsCode

/-! ## The events -/

def PushEvent.stateChange? : PushEvent → Option (WorkState × WorkState)
  | .stateChanged _ old new => some (old, new)
  | _ => none

def PushEvent.diagChange? : PushEvent → Option (DiagStatus × DiagStatus)
  | .diagChanged _ old new => some (old, new)
  | _ => none

namespace PushState

/-- The kStateChanged events, as old and new state. -/
def stateChanges (s : PushState) : List (WorkState × WorkState) :=
  s.events.filterMap PushEvent.stateChange?

/-- The kDiagChanged events, as old and new status. -/
def diagChanges (s : PushState) : List (DiagStatus × DiagStatus) :=
  s.events.filterMap PushEvent.diagChange?

/-- The events of one kind that a push adds come from the detector of that kind. -/
theorem filterMap_events_accept {β : Type} (kind : PushEvent → Option β) (s : PushState)
    (d : PushDatagram) (values : List KeyValue) :
    (s.accept d values).events.filterMap kind = s.events.filterMap kind ++
      ((s.stateChange (s.next d values)).bind fun change =>
        kind (.stateChanged d.recvTimeNs change.1 change.2)).toList ++
      ((s.hmsChange (s.next d values)).bind fun hms =>
        kind (.hms d.recvTimeNs hms (highestLevel hms))).toList ++
      ((s.diagChange (s.next d values)).bind fun diag =>
        kind (.diagChanged d.recvTimeNs s.diagSeen diag)).toList := by
  have hone {γ : Type} (o : Option γ) (event : γ → PushEvent) :
      (o.map event).toList.filterMap kind = (o.bind fun x => kind (event x)).toList := by
    cases o with
    | none => rfl
    | some x => cases hkind : kind (event x) <;> simp [hkind]
  simp only [accept, List.filterMap_append, hone]

theorem stateChanges_accept (s : PushState) (d : PushDatagram) (values : List KeyValue) :
    (s.accept d values).stateChanges =
      s.stateChanges ++ reportSome (s.field LidarStatus.curWorkState)
        ((s.accept d values).field LidarStatus.curWorkState) := by
  have hnew : (s.accept d values).field LidarStatus.curWorkState =
      (s.next d values).curWorkState := rfl
  have hchange : (s.stateChange (s.next d values)).toList =
      reportSome (s.field LidarStatus.curWorkState) (s.next d values).curWorkState := by
    unfold stateChange field
    cases (s.next d values).curWorkState with
    | none => cases s.pushedStatus.bind LidarStatus.curWorkState <;> rfl
    | some =>
      cases s.pushedStatus.bind LidarStatus.curWorkState with
      | none => rfl
      | some =>
        dsimp only [reportSome, report]
        split <;> simp_all
  rw [hnew, ← hchange, stateChanges, filterMap_events_accept]
  simp [PushEvent.stateChange?, stateChanges]

theorem diagSeen_accept (s : PushState) (d : PushDatagram) (values : List KeyValue) :
    (s.accept d values).diagSeen =
      ((s.accept d values).field LidarStatus.lidarDiagStatus).getD s.diagSeen := by
  change (s.diagChange (s.next d values)).getD s.diagSeen =
    (s.next d values).lidarDiagStatus.getD s.diagSeen
  unfold diagChange
  cases (s.next d values).lidarDiagStatus with
  | none => rfl
  | some =>
    dsimp only
    split <;> simp_all

theorem diagChanges_accept (s : PushState) (d : PushDatagram) (values : List KeyValue) :
    (s.accept d values).diagChanges =
      s.diagChanges ++ report s.diagSeen (s.accept d values).diagSeen := by
  have hnew : (s.accept d values).diagSeen = (s.diagChange (s.next d values)).getD s.diagSeen := rfl
  have hchange : ((s.diagChange (s.next d values)).map fun diag => (s.diagSeen, diag)).toList =
      report s.diagSeen ((s.diagChange (s.next d values)).getD s.diagSeen) := by
    unfold diagChange report
    cases (s.next d values).lidarDiagStatus with
    | none => simp
    | some =>
      dsimp only
      split <;> simp_all [eq_comm]
  rw [hnew, ← hchange, diagChanges, filterMap_events_accept]
  simp [PushEvent.diagChange?, diagChanges, Option.map_eq_bind]

end PushState

/-! ## Every sequence of datagrams -/

/-- The accepted pushes of a sequence. -/
def acceptedPushes : List (List KeyValue) :=
  ds.filterMap acceptedPush

/-- How many datagrams of a sequence are not accepted. -/
def rejected : ℕ :=
  ds.countP fun d => (acceptedPush d).isNone

/-- What the state says about the datagrams it was made from. -/
structure Follows (ds : List PushDatagram) (s : PushState) : Prop where
  merged : MergedFrom (acceptedPushes ds) s
  states : ChangeLog.Recorded ((acceptedPushes ds).map (decodeOpt .kCurWorkState decodeWorkState))
    s.stateChanges
  diagSeen : s.diagSeen = (s.field LidarStatus.lidarDiagStatus).getD {}
  diags : Chain {} s.diagChanges s.diagSeen
  badPackets : s.badPackets = rejected ds
  pushes : s.pushes + rejected ds = ds.length

/-- A rejected datagram. -/
theorem Follows.reject {ds : List PushDatagram} (h : Follows ds s) {d : PushDatagram}
    (hd : acceptedPush d = none) : Follows (ds ++ [d]) s.reject := by
  have haccepted : acceptedPushes (ds ++ [d]) = acceptedPushes ds := by
    simp [acceptedPushes, hd]
  have hrejected : rejected (ds ++ [d]) = rejected ds + 1 := by
    simp [rejected, hd]
  obtain ⟨merged, states, diagSeen, diags, badPackets, pushes⟩ := h
  refine ⟨haccepted ▸ ?_, haccepted ▸ states, diagSeen, diags, ?_, ?_⟩
  · obtain ⟨h₁, h₂, h₃, h₄, h₅, h₆, h₇, h₈, h₉, h₁₀⟩ := merged
    exact ⟨h₁, h₂, h₃, h₄, h₅, h₆, h₇, h₈, h₉, h₁₀⟩
  · rw [hrejected, ← badPackets]
    rfl
  · rw [hrejected, List.length_append, List.length_singleton, ← pushes]
    rfl

/-- An accepted push. -/
theorem Follows.accept {ds : List PushDatagram} (h : Follows ds s) {d : PushDatagram}
    {values : List KeyValue} (hd : acceptedPush d = some values) :
    Follows (ds ++ [d]) (s.accept d values) := by
  have haccepted : acceptedPushes (ds ++ [d]) = acceptedPushes ds ++ [values] := by
    simp [acceptedPushes, hd]
  have hrejected : rejected (ds ++ [d]) = rejected ds := by
    simp [rejected, hd]
  have hmerged := h.merged.accept d values
  refine ⟨haccepted ▸ hmerged, ?_, ?_, ?_, ?_, ?_⟩
  · rw [haccepted, List.map_append, List.map_singleton, PushState.stateChanges_accept,
      hmerged.curWorkState, h.merged.curWorkState, List.map_append, List.map_singleton,
      latest_concat]
    exact h.states.report _
  · -- What the push lacks is kept, so the status is empty only if it was.
    rw [PushState.diagSeen_accept, h.diagSeen,
      field_accept LidarStatus.lidarDiagStatus (fun _ _ => rfl) (fun _ _ => rfl)]
    cases (decodeStatus values).lidarDiagStatus with
    | some => rfl
    | none => cases s.field LidarStatus.lidarDiagStatus <;> rfl
  · rw [PushState.diagChanges_accept]
    exact h.diags.report _
  · rw [hrejected, ← h.badPackets]
    rfl
  · rw [hrejected, List.length_append, List.length_singleton, ← h.pushes]
    change s.pushes + 1 + rejected ds = _
    omega

theorem follows_run : Follows ds (PushState.run ds) := by
  induction ds using List.reverseRecOn with
  | nil => exact ⟨⟨rfl, rfl, rfl, rfl, rfl, rfl, rfl, rfl, rfl, rfl⟩, rfl, rfl, rfl, rfl, rfl⟩
  | append_singleton ds d ih =>
    rw [run_concat, onPush_eq]
    cases hd : acceptedPush d with
    | none => exact ih.reject hd
    | some => exact ih.accept hd

/-- **The pushed status is the fold of all pushes**, and its events form chains.  After any
sequence of datagrams on the push port:

* every field of the status is the value of the first entry of its key in the last accepted
  push in which that entry decodes;
* a rejected datagram changes nothing but `bad_packets`;
* the kStateChanged events lead from the first work state to the current one, and nothing is
  raised while there is no state to compare with;
* the kDiagChanged events lead from "all normal" to the current diagnostic status;
* every datagram is counted, as a push or as rejected. -/
theorem push_fold (ds : List PushDatagram) :
    let s := PushState.run ds
    MergedFrom (acceptedPushes ds) s ∧
    (∀ d, acceptedPush d = none → s.onPush d = { s with badPackets := s.badPackets + 1 }) ∧
    ChangeLog.Recorded ((acceptedPushes ds).map (decodeOpt .kCurWorkState decodeWorkState))
      s.stateChanges ∧
    (∀ d, s.field LidarStatus.curWorkState = none →
      (s.onPush d).stateChanges = s.stateChanges) ∧
    Chain {} s.diagChanges ((s.field LidarStatus.lidarDiagStatus).getD {}) ∧
    s.badPackets = rejected ds ∧ s.pushes + rejected ds = ds.length := by
  intro s
  have h := follows_run ds
  refine ⟨h.merged, fun d hd => ?_, h.states, fun d hnone => ?_, h.diagSeen ▸ h.diags,
    h.badPackets, h.pushes⟩
  · rw [onPush_eq, hd]
    rfl
  · rw [onPush_eq]
    cases acceptedPush d with
    | none => rfl
    | some =>
      dsimp only
      rw [PushState.stateChanges_accept, hnone]
      exact List.append_nil _

/-- A push of a state and of the diagnostic status, an empty datagram, and a push of another
state. -/
def threePushes : List PushDatagram :=
  [pushDatagram [⟨0x8006, [0x09]⟩, ⟨0x800E, [1, 0]⟩], { data := [] },
    pushDatagram [⟨0x8006, [0x01]⟩]]

theorem push_fold_threePushes :
    let s := PushState.run threePushes
    s.field LidarStatus.curWorkState = some .kSampling ∧
      s.onPush { data := [] } = { s with badPackets := s.badPackets + 1 } ∧
      ChangeLog.Recorded [some .kReady, some .kSampling] s.stateChanges ∧
      Chain {} s.diagChanges ((s.field LidarStatus.lidarDiagStatus).getD {}) ∧
      s.badPackets = 1 ∧ s.pushes + 1 = 3 := by
  dsimp only
  have hfirst : acceptedPush (pushDatagram [⟨0x8006, [0x09]⟩, ⟨0x800E, [1, 0]⟩]) = some _ :=
    acceptedPush_pushDatagram (by decide)
  have hempty : acceptedPush { data := [] } = none := by decide
  have hlast : acceptedPush (pushDatagram [⟨0x8006, [0x01]⟩]) = some _ :=
    acceptedPush_pushDatagram (by decide)
  have hpushes : acceptedPushes threePushes =
      [[⟨0x8006, [0x09]⟩, ⟨0x800E, [1, 0]⟩], [⟨0x8006, [0x01]⟩]] := by
    simp [acceptedPushes, threePushes, hfirst, hempty, hlast]
  have hrejected : rejected threePushes = 1 := by
    simp [rejected, threePushes, hfirst, hempty, hlast]
  have hread : (acceptedPushes threePushes).map (decodeOpt .kCurWorkState decodeWorkState) =
      [some .kReady, some .kSampling] := by
    rw [hpushes]
    decide
  have hfold := push_fold threePushes
  dsimp only at hfold
  rw [hread, hpushes, hrejected] at hfold
  generalize PushState.run threePushes = s at hfold ⊢
  obtain ⟨hmerged, hreject, hstates, -, hdiags, hbad, htotal⟩ := hfold
  refine ⟨?_, hreject _ hempty, hstates, hdiags, hbad, htotal⟩
  rw [hmerged.curWorkState]
  decide

end LivoxMid360
