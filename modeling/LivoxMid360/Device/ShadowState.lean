import LivoxMid360.Keys
import LivoxMid360.Lib.Interleaving

/-!
# What the Device remembers of the LiDAR

A reconnect brings the LiDAR back to the mode it was in.  For that the Device keeps a
shadow of what it has told it: `sampling_requested`, whether the last mode was SAMPLING,
and `configured_ip`, the address of the last accepted `set_lidar_ip_config`.  The order of
the commands is that of their sections under `cmd_mutex`, but only a part of the shadow is
written there: `start_sampling` stores inside its section, `stop_sampling` after it, and
`set_lidar_ip_config` in a second section of its own.

The machine has any number of threads, each of which makes any number of calls.  Every
request may fail, and so may the checks that the Device is connected; the connection itself
is not modelled, so an attempt may find it gone at any time.  `Connection`, where it is,
leaves the shadow out, so that nothing there depends on which command is sent.
`Memory.modes` and `Memory.ips` record the acknowledged commands in the order of their
sections.

* `Agrees` and `IpAgrees` are the invariants.  They are stated over the place of the holder
  of `cmd_mutex` and over the stores that are still due outside.
* `shadow_follows` — in every run in which no later command overtakes a store that is due,
  the shadow is the last command whenever no call is in progress, and a reconnect replays
  the mode the LiDAR was last told.
* `shadow_overtaken` — without the condition a start that follows a stop is forgotten, and
  so is the second of two addresses.
-/

namespace LivoxMid360.Device.Shadow

open Concurrent (anyMove MutexStep actor)

/-! ## The machine -/

/-- What the threads share. -/
structure Memory where
  cmdMutex : Option ℕ := none
  /-- `sampling_requested`. -/
  sampling : Bool := false
  configuredIp : Option Ipv4 := none
  /-- The acknowledged starts (`true`) and the stops that succeeded (`false`). -/
  modes : List Bool := []
  /-- The accepted addresses. -/
  ips : List Ipv4 := []
  deriving DecidableEq

/-- Where a thread is. -/
inductive Pc
  | idle
  | startLock
  | startRequest
  | startStore
  | startWait
  | startUnlock
  | stopLock
  | stopRequest
  | stopWait
  | stopUnlock (succeeded : Bool)
  | stopStore
  | ipLock (ip : Ipv4)
  | ipRequest (ip : Ipv4)
  | ipUnlock (ip : Ipv4) (accepted : Bool)
  | ipRelock (ip : Ipv4)
  | ipStore (ip : Ipv4)
  | ipReunlock
  | attemptLock
  | attemptConnect
  | replayRead
  | replayRequest
  | replayStore
  | replayWait
  | attemptUnlock
  deriving DecidableEq

inductive Move
  | go
  | fails
  | start
  | stop
  | setIp (ip : Ipv4)
  | reconnect
  deriving DecidableEq

/-- Take `cmd_mutex`. -/
@[grind =] def Memory.lockCmd (t : ℕ) (m : Memory) : Option Memory :=
  Concurrent.lock Memory.cmdMutex (fun m holder => { m with cmdMutex := holder }) t m

/-- Give it back. -/
@[grind =] def Memory.unlockCmd (m : Memory) : Memory :=
  { m with cmdMutex := none }

/-- One step of a thread. -/
def step (t : ℕ) (a : Move) : Pc → Memory → Option (Pc × Memory)
  | .idle, m =>
    match a with
    | .start => some (.startLock, m)
    | .stop => some (.stopLock, m)
    | .setIp ip => some (.ipLock ip, m)
    | .reconnect => some (.attemptLock, m)
    | _ => none
  -- `start_sampling`
  | .startLock, m => (m.lockCmd t).map (.startRequest, ·)
  | .startRequest, m =>
    if a = .fails then some (.startUnlock, m)
    else some (.startStore, { m with modes := m.modes ++ [true] })
  | .startStore, m => some (.startWait, { m with sampling := true })
  | .startWait, m => some (.startUnlock, m)
  | .startUnlock, m => some (.idle, m.unlockCmd)
  -- `stop_sampling`
  | .stopLock, m => (m.lockCmd t).map (.stopRequest, ·)
  | .stopRequest, m => some (if a = .fails then .stopUnlock false else .stopWait, m)
  | .stopWait, m =>
    if a = .fails then some (.stopUnlock false, m)
    else some (.stopUnlock true, { m with modes := m.modes ++ [false] })
  | .stopUnlock succeeded, m => some (if succeeded then .stopStore else .idle, m.unlockCmd)
  | .stopStore, m => some (.idle, { m with sampling := false })
  -- `set_lidar_ip_config`
  | .ipLock ip, m => (m.lockCmd t).map (.ipRequest ip, ·)
  | .ipRequest ip, m =>
    if a = .fails then some (.ipUnlock ip false, m)
    else some (.ipUnlock ip true, { m with ips := m.ips ++ [ip] })
  | .ipUnlock ip accepted, m => some (if accepted then .ipRelock ip else .idle, m.unlockCmd)
  | .ipRelock ip, m => (m.lockCmd t).map (.ipStore ip, ·)
  | .ipStore ip, m => some (.ipReunlock, { m with configuredIp := some ip })
  | .ipReunlock, m => some (.idle, m.unlockCmd)
  -- `attempt`
  | .attemptLock, m => (m.lockCmd t).map (.attemptConnect, ·)
  | .attemptConnect, m => some (if a = .fails then .attemptUnlock else .replayRead, m)
  | .replayRead, m => some (if m.sampling then .replayRequest else .attemptUnlock, m)
  | .replayRequest, m => some (if a = .fails then .attemptUnlock else .replayStore, m)
  | .replayStore, m => some (.replayWait, { m with sampling := true })
  | .replayWait, m => some (.attemptUnlock, m)
  | .attemptUnlock, m => some (.idle, m.unlockCmd)

/-- All threads. -/
def program : Concurrent ℕ (fun _ => Pc) Memory Move where
  step := step

abbrev Config := Concurrent.Config (fun _ : ℕ => Pc) Memory

/-- `Device::open` has returned. -/
def opened : Config where
  pc _ := .idle
  mem := {}

/-- No later command overtakes a store that is due: a start does not store, and an attempt
does not read, while a stop that succeeded has not stored; and an address is not accepted
while the one before has not been stored.  A request for an address that the LiDAR rejects
stores nothing, so it may come at any time. -/
def InOrder : ℕ → Move → Config → Prop :=
  fun t a c =>
    (c.pc t = .startStore ∨ c.pc t = .replayRead → ∀ u, c.pc u ≠ .stopStore) ∧
      ((∃ ip, c.pc t = .ipRequest ip) → a ≠ .fails → ∀ u ip, c.pc u ≠ .ipRelock ip)

/-! ## The mutex -/

/-- Where a thread has `cmd_mutex`. -/
@[grind] def Pc.holdsCmd : Pc → Bool
  | .idle | .startLock | .stopLock | .stopStore | .ipLock _ | .ipRelock _ | .attemptLock => false
  | _ => true

section Mutex

variable {t : ℕ} {a : Move} {pc pc' : Pc} {m m' : Memory}

theorem step_cmd (h : step t a pc m = some (pc', m')) :
    MutexStep t m.cmdMutex m'.cmdMutex (pc.holdsCmd = true) (pc'.holdsCmd = true) := by
  unfold step at h
  unfold MutexStep
  split at h <;> grind

theorem respects_cmdMutex :
    program.RespectsMutex Memory.cmdMutex fun _ pc => pc.holdsCmd = true :=
  fun _ _ _ _ _ _ h => step_cmd h

variable {ok : ℕ → Move → Config → Prop} {c : Config}

theorem holdsCmd_iff (h : program.Reaches opened ok c) (t : ℕ) :
    (c.pc t).holdsCmd = true ↔ c.mem.cmdMutex = some t :=
  h.holds_iff respects_cmdMutex rfl (fun _ => by simp [opened, Pc.holdsCmd]) t

/-- Where the holder of `cmd_mutex` is. -/
def cmdPc (c : Config) : Pc :=
  actor Memory.cmdMutex .idle c

end Mutex

/-! ## The stores that are due -/

/-- A stop that succeeded has left its section and not stored yet. -/
def Pc.stopDue : Pc → Bool
  | .stopStore => true
  | _ => false

/-- The address of a call that has left its first section and not entered the second. -/
def Pc.ipDue : Pc → Option Ipv4
  | .ipRelock ip => some ip
  | _ => none

variable {t : ℕ} {a : Move} {pc : Pc} {m m' : Memory}

/-- A call begins outside of `cmd_mutex` and with nothing due. -/
theorem step_idle (h : step t a .idle m = some (pc, m')) :
    m' = m ∧ pc.holdsCmd = false ∧ pc.stopDue = false ∧ pc.ipDue = none := by
  unfold step at h
  dsimp only at h
  split at h <;> cases h <;> exact ⟨rfl, rfl, rfl, rfl⟩

/-! ## The mode -/

/-- How far the holder of `cmd_mutex` is with the mode. -/
inductive Stage
  | settled
  | started
  | stopped
  | replaying

def Pc.stage : Pc → Stage
  | .startStore => .started
  | .stopUnlock true => .stopped
  | .replayRequest | .replayStore => .replaying
  | _ => .settled

/-- The shadow and the last mode; `due` says that the store of a stop is due. -/
def Agrees (stage : Stage) (due : Prop) (sampling : Bool) (last : Option Bool) : Prop :=
  match stage with
  | .settled => (due → last = some false) ∧ (¬due → (sampling = true ↔ last = some true))
  | .started => last = some true
  | .stopped => last = some false
  | .replaying => last = some true ∧ sampling = true ∧ ¬due

/-- The store of a stop, while another thread may hold the mutex. -/
theorem Agrees.store {stage : Stage} {due others : Prop} {sampling : Bool} {last : Option Bool}
    (h : Agrees stage due sampling last) (hdue : due) : Agrees stage others false last := by
  cases stage with
  | settled =>
    have hlast : last = some false := h.1 hdue
    exact ⟨fun _ => hlast, fun _ => by simp [hlast]⟩
  | started | stopped => exact h
  | replaying => exact absurd hdue h.2.2

/-- One step; `others` says that the store of another thread is due. -/
theorem Agrees.step {pc' x : Pc} {others : Prop}
    (h : Agrees x.stage (pc.stopDue = true ∨ others) m.sampling m.modes.getLast?)
    (hstep : Shadow.step t a pc m = some (pc', m')) (hcmd : pc.holdsCmd = true → x = pc)
    (htaken : pc.holdsCmd = false → pc'.holdsCmd = true → x = .idle)
    (hok : pc = .startStore ∨ pc = .replayRead → ¬others) :
    Agrees (if pc'.holdsCmd then pc' else if pc.holdsCmd then .idle else x).stage
      (pc'.stopDue = true ∨ others) m'.sampling m'.modes.getLast? := by
  cases pc with
  | idle =>
    obtain ⟨rfl, hout, hdue, -⟩ := step_idle hstep
    rw [hout, hdue]
    exact h
  | startLock | stopLock | attemptLock | ipLock | ipRelock =>
    obtain ⟨-, rfl, rfl⟩ := Concurrent.map_lock_eq_some.mp hstep
    obtain rfl := htaken rfl rfl
    exact h
  | startRequest | stopWait =>
    obtain rfl := hcmd rfl
    unfold Shadow.step at hstep
    split_ifs at hstep
    · cases hstep
      exact h
    · cases hstep
      exact List.getLast?_concat
  -- `hok` keeps this store from overtaking that of a stop
  | startStore =>
    cases hstep
    obtain rfl := hcmd rfl
    have hlast : m.modes.getLast? = some true := h
    refine ⟨fun hdue => ?_, fun _ => iff_of_true rfl hlast⟩
    exact absurd (hdue.resolve_left Bool.false_ne_true) (hok (.inl rfl))
  | stopRequest | attemptConnect =>
    obtain ⟨hpc, rfl⟩ := Prod.mk.inj (Option.some.inj hstep)
    obtain rfl := hcmd rfl
    split_ifs at hpc <;> obtain rfl := hpc <;> exact h
  -- a stop stores only after it has released the mutex: from here on its store is due
  | stopUnlock succeeded =>
    cases hstep
    obtain rfl := hcmd rfl
    cases succeeded with
    | false => exact h
    | true => exact ⟨fun _ => h, fun hnot => absurd (.inl rfl) hnot⟩
  | stopStore =>
    cases hstep
    exact h.store (.inl rfl)
  | ipRequest =>
    obtain rfl := hcmd rfl
    unfold Shadow.step at hstep
    split_ifs at hstep <;> cases hstep <;> exact h
  | ipUnlock ip accepted =>
    cases hstep
    obtain rfl := hcmd rfl
    cases accepted <;> exact h
  -- the attempt reads the shadow while no store is due, so it reads the last mode
  | replayRead =>
    obtain ⟨hpc, rfl⟩ := Prod.mk.inj (Option.some.inj hstep)
    obtain rfl := hcmd rfl
    split_ifs at hpc with hsampling
    · obtain rfl := hpc
      have hnone : ¬(false = true ∨ others) := by
        rintro (hfalse | hothers)
        · exact Bool.false_ne_true hfalse
        · exact hok (.inr rfl) hothers
      exact ⟨(h.2 hnone).mp hsampling, hsampling, hnone⟩
    · obtain rfl := hpc
      exact h
  | replayRequest =>
    obtain ⟨hpc, rfl⟩ := Prod.mk.inj (Option.some.inj hstep)
    obtain rfl := hcmd rfl
    obtain ⟨hlast, hsampling, hnone⟩ := h
    split_ifs at hpc
    · obtain rfl := hpc
      exact ⟨fun hdue => absurd hdue hnone, fun _ => iff_of_true hsampling hlast⟩
    · obtain rfl := hpc
      exact ⟨hlast, hsampling, hnone⟩
  | replayStore =>
    cases hstep
    obtain rfl := hcmd rfl
    obtain ⟨hlast, -, hnone⟩ := h
    exact ⟨fun hdue => absurd hdue hnone, fun _ => iff_of_true rfl hlast⟩
  | startWait | startUnlock | ipStore | ipReunlock | replayWait | attemptUnlock =>
    cases hstep
    obtain rfl := hcmd rfl
    exact h

/-! ## The address -/

/-- The address the holder of `cmd_mutex` has had accepted and not stored yet. -/
def Pc.ipStage : Pc → Option Ipv4
  | .ipUnlock ip true | .ipStore ip => some ip
  | _ => none

/-- The shadow and the last address; `due` are the addresses whose store is due outside. -/
def IpAgrees (stage : Option Ipv4) (due : Ipv4 → Prop) (configured last : Option Ipv4) : Prop :=
  match stage with
  | none => (∀ ip, due ip → last = some ip) ∧ ((∀ ip, ¬due ip) → configured = last)
  | some ip => last = some ip ∧ ∀ ip', ¬due ip'

/-- One step; `others` are the addresses due to other threads. -/
theorem IpAgrees.step {pc' x : Pc} {others : Ipv4 → Prop}
    (h : IpAgrees x.ipStage (fun ip => pc.ipDue = some ip ∨ others ip) m.configuredIp
      m.ips.getLast?) (hstep : Shadow.step t a pc m = some (pc', m'))
    (hcmd : pc.holdsCmd = true → x = pc)
    (htaken : pc.holdsCmd = false → pc'.holdsCmd = true → x = .idle)
    (hok : (∃ ip, pc = .ipRequest ip) → a ≠ .fails → ∀ ip, ¬others ip)
    (halone : (∃ ip, pc = .ipRelock ip) → ∀ ip, ¬others ip) :
    IpAgrees (if pc'.holdsCmd then pc' else if pc.holdsCmd then .idle else x).ipStage
      (fun ip => pc'.ipDue = some ip ∨ others ip) m'.configuredIp m'.ips.getLast? := by
  have hnone (hothers : ∀ ip, ¬others ip) :
      ∀ ip, ¬((none : Option Ipv4) = some ip ∨ others ip) := by
    rintro ip (hnone | hip)
    · exact absurd hnone nofun
    · exact hothers ip hip
  cases pc with
  | idle =>
    obtain ⟨rfl, hout, -, hdue⟩ := step_idle hstep
    rw [hout, hdue]
    exact h
  | startLock | stopLock | attemptLock | ipLock =>
    obtain ⟨-, rfl, rfl⟩ := Concurrent.map_lock_eq_some.mp hstep
    obtain rfl := htaken rfl rfl
    exact h
  -- the address is stored in a second critical section; `halone` says that no other one is due
  | ipRelock ip =>
    obtain ⟨-, rfl, rfl⟩ := Concurrent.map_lock_eq_some.mp hstep
    obtain rfl := htaken rfl rfl
    exact ⟨h.1 ip (.inl rfl), hnone (halone ⟨ip, rfl⟩)⟩
  | startRequest | stopWait =>
    obtain rfl := hcmd rfl
    unfold Shadow.step at hstep
    split_ifs at hstep <;> cases hstep <;> exact h
  | stopRequest | attemptConnect | replayRead | replayRequest =>
    obtain ⟨hpc, rfl⟩ := Prod.mk.inj (Option.some.inj hstep)
    obtain rfl := hcmd rfl
    split_ifs at hpc <;> obtain rfl := hpc <;> exact h
  | stopUnlock succeeded =>
    cases hstep
    obtain rfl := hcmd rfl
    cases succeeded <;> exact h
  | ipRequest ip =>
    obtain rfl := hcmd rfl
    unfold Shadow.step at hstep
    split_ifs at hstep with hfails
    · cases hstep
      exact h
    · cases hstep
      exact ⟨List.getLast?_concat, hnone (hok ⟨ip, rfl⟩ hfails)⟩
  | ipUnlock ip accepted =>
    cases hstep
    obtain rfl := hcmd rfl
    cases accepted with
    | false => exact h
    | true =>
      obtain ⟨hlast, hdue⟩ := h
      refine ⟨?_, fun hnot => absurd (.inl rfl) (hnot ip)⟩
      rintro ip' (hip | hother)
      · exact hlast.trans hip
      · exact absurd (.inr hother) (hdue ip')
  | ipStore =>
    cases hstep
    obtain rfl := hcmd rfl
    obtain ⟨hlast, hdue⟩ := h
    exact ⟨fun ip' hip => absurd hip (hdue ip'), fun _ => hlast.symm⟩
  | stopStore =>
    cases hstep
    exact h
  | startStore | startWait | startUnlock | ipReunlock | replayStore | replayWait | attemptUnlock =>
    cases hstep
    obtain rfl := hcmd rfl
    exact h

/-! ## Every run -/

/-- The store of a stop is due. -/
def StopDue (c : Config) : Prop :=
  ∃ u, (c.pc u).stopDue = true

/-- The store of an address is due. -/
def IpDue (c : Config) (ip : Ipv4) : Prop :=
  ∃ u, (c.pc u).ipDue = some ip

/-- At most one thread has the store of an address before it. -/
def IpDueAlone (c : Config) : Prop :=
  ∀ t u ip ip', (c.pc t).ipDue = some ip → (c.pc u).ipDue = some ip' → t = u

section Runs

variable {c : Config} {t : ℕ} {a : Move} {pc : Pc} {m : Memory}

theorem stopDue_update :
    StopDue ⟨Function.update c.pc t pc, m⟩ ↔
      pc.stopDue = true ∨ ∃ u ≠ t, (c.pc u).stopDue = true :=
  Function.exists_update_iff c.pc fun _ pc => pc.stopDue = true

theorem stopDue_iff (c : Config) (t : ℕ) :
    StopDue c ↔ (c.pc t).stopDue = true ∨ ∃ u ≠ t, (c.pc u).stopDue = true := by
  rw [← stopDue_update (m := c.mem), Function.update_eq_self]

theorem ipDue_update (ip : Ipv4) :
    IpDue ⟨Function.update c.pc t pc, m⟩ ip ↔
      pc.ipDue = some ip ∨ ∃ u ≠ t, (c.pc u).ipDue = some ip :=
  Function.exists_update_iff c.pc fun _ pc => pc.ipDue = some ip

theorem ipDue_iff (c : Config) (t : ℕ) (ip : Ipv4) :
    IpDue c ip ↔ (c.pc t).ipDue = some ip ∨ ∃ u ≠ t, (c.pc u).ipDue = some ip := by
  rw [← ipDue_update (m := c.mem), Function.update_eq_self]

theorem Pc.eq_stopStore_iff : pc.stopDue = true ↔ pc = .stopStore := by
  cases pc <;> simp [Pc.stopDue]

theorem Pc.eq_ipRelock_iff {ip : Ipv4} : pc.ipDue = some ip ↔ pc = .ipRelock ip := by
  cases pc <;> simp [Pc.ipDue]

theorem cmdPc_step {ok : ℕ → Move → Config → Prop} (h : program.Reaches opened ok c)
    (hstep : step t a (c.pc t) c.mem = some (pc, m)) :
    cmdPc ⟨Function.update c.pc t pc, m⟩ =
      if pc.holdsCmd then pc else if (c.pc t).holdsCmd then .idle else cmdPc c :=
  Concurrent.actor_update (holdsCmd_iff h) (step_cmd hstep)

/-- The store of an address gets due when the call leaves its first section. -/
theorem ipUnlock_of_ipDue {pc' : Pc} {m' : Memory} {ip : Ipv4} (h : step t a pc m = some (pc', m'))
    (hdue : pc'.ipDue = some ip) : pc = .ipUnlock ip true := by
  obtain rfl := Pc.eq_ipRelock_iff.mp hdue
  unfold step at h
  split at h <;> grind

/-- **The mode.**  The invariant of `sampling_requested`. -/
theorem agrees (h : program.Reaches opened InOrder c) :
    Agrees (cmdPc c).stage (StopDue c) c.mem.sampling c.mem.modes.getLast? := by
  refine h.induction
    (I := fun c : Config => Agrees (cmdPc c).stage (StopDue c) c.mem.sampling c.mem.modes.getLast?)
    ?_ fun t a c pc m hreach ih hok hstep => ?_
  · exact ⟨fun ⟨u, hu⟩ => absurd hu Bool.false_ne_true, fun _ => by simp [opened]⟩
  · dsimp only
    rw [propext (stopDue_iff c t)] at ih
    rw [propext stopDue_update, cmdPc_step hreach hstep]
    refine ih.step hstep (Concurrent.actor_of_holds (holdsCmd_iff hreach))
      (Concurrent.actor_of_takes (step_cmd hstep)) ?_
    rintro hpc ⟨u, -, hu⟩
    exact hok.1 hpc u (Pc.eq_stopStore_iff.mp hu)

/-- **The address.**  The invariant of `configured_ip`. -/
theorem ipAgrees (h : program.Reaches opened InOrder c) :
    IpAgrees (cmdPc c).ipStage (IpDue c) c.mem.configuredIp c.mem.ips.getLast? ∧ IpDueAlone c := by
  refine h.induction
    (I := fun c : Config => IpAgrees (cmdPc c).ipStage (IpDue c) c.mem.configuredIp
      c.mem.ips.getLast? ∧ IpDueAlone c) ?_ fun t a c pc m hreach ih hok hstep => ?_
  · refine ⟨⟨fun ip ⟨u, hu⟩ => absurd hu nofun, fun _ => rfl⟩, fun t u ip ip' ht => ?_⟩
    exact absurd ht nofun
  · obtain ⟨hagrees, halone⟩ := ih
    have hcmd : (c.pc t).holdsCmd = true → cmdPc c = c.pc t :=
      Concurrent.actor_of_holds (holdsCmd_iff hreach)
    rw [show IpDue c = _ from funext fun ip => propext (ipDue_iff c t ip)] at hagrees
    constructor
    · dsimp only
      rw [show IpDue ⟨Function.update c.pc t pc, m⟩ = _ from
        funext fun ip => propext (ipDue_update ip), cmdPc_step hreach hstep]
      refine hagrees.step hstep hcmd (Concurrent.actor_of_takes (step_cmd hstep)) ?_ ?_
      · rintro hpc ha ip ⟨u, -, hu⟩
        exact hok.2 hpc ha u ip (Pc.eq_ipRelock_iff.mp hu)
      · rintro ⟨ip, hpc⟩ ip' ⟨u, hut, hu⟩
        exact hut (halone u t ip' ip hu (Pc.eq_ipRelock_iff.mpr hpc))
    · -- A thread gets its store before it when it leaves a section in which nothing was due.
      have hfresh (u : ℕ) (hut : u ≠ t) (ip ip' : Ipv4) (ht : pc.ipDue = some ip) :
          (c.pc u).ipDue ≠ some ip' := by
        intro hu
        have hbefore := ipUnlock_of_ipDue hstep ht
        rw [hcmd (by rw [hbefore]; rfl), hbefore] at hagrees
        exact hagrees.2 ip' (.inr ⟨u, hut, hu⟩)
      intro u v ip ip' hu hv
      dsimp only at hu hv
      by_cases hut : u = t
      · by_cases hvt : v = t
        · rw [hut, hvt]
        · rw [hut, Function.update_self] at hu
          rw [Function.update_of_ne hvt] at hv
          exact absurd hv (hfresh v hvt ip ip' hu)
      · rw [Function.update_of_ne hut] at hu
        by_cases hvt : v = t
        · rw [hvt, Function.update_self] at hv
          exact absurd hu (hfresh u hut ip' ip hv)
        · rw [Function.update_of_ne hvt] at hv
          exact halone u v ip ip' hu hv

/-- With no call in progress, the mutex is free and nothing is due. -/
theorem cmdPc_of_idle (h : ∀ t, c.pc t = .idle) : cmdPc c = .idle := by
  unfold cmdPc actor
  cases c.mem.cmdMutex with
  | none => rfl
  | some t => exact h t

end Runs

/-- **The shadow follows the commands**, in every run in which no command overtakes a store
that is due.  When no call is in progress, `sampling_requested` says whether the last mode
was a start, and `configured_ip` is the last accepted address; and an attempt that reads
the mode reads the one the LiDAR was last told. -/
theorem shadow_follows {c : Config} (h : program.Reaches opened InOrder c) :
    ((∀ t, c.pc t = .idle) →
      (c.mem.sampling = true ↔ c.mem.modes.getLast? = some true) ∧
        c.mem.configuredIp = c.mem.ips.getLast?) ∧
    ∀ t a, c.pc t = .replayRead → InOrder t a c →
      (c.mem.sampling = true ↔ c.mem.modes.getLast? = some true) := by
  have hagrees := agrees h
  obtain ⟨hip, -⟩ := ipAgrees h
  refine ⟨fun hidle => ?_, fun t a ht hok => ?_⟩
  · rw [cmdPc_of_idle hidle] at hagrees hip
    refine ⟨hagrees.2 ?_, hip.2 ?_⟩
    · rintro ⟨u, hu⟩
      rw [hidle u] at hu
      exact Bool.false_ne_true hu
    · rintro ip ⟨u, hu⟩
      rw [hidle u] at hu
      exact absurd hu nofun
  · have hcmd : cmdPc c = c.pc t :=
      Concurrent.actor_of_holds (holdsCmd_iff h) (by rw [ht]; rfl)
    rw [hcmd, ht] at hagrees
    refine hagrees.2 ?_
    rintro ⟨u, hu⟩
    exact hok.1 (.inr ht) u (Pc.eq_stopStore_iff.mp hu)

/-- A thread that makes all the calls overtakes nothing. -/
theorem inOrder_alone (moves : List Move) {c : Config} (hidle : ∀ u ≠ 0, c.pc u = .idle) :
    program.Allowed InOrder (moves.map (0, ·)) c := by
  induction moves generalizing c with
  | nil => trivial
  | cons a moves ih =>
    refine ⟨⟨fun hpc u => ?_, fun hpc _ u ip => ?_⟩, fun c' hc' => ih fun u hu => ?_⟩
    · by_cases hu : u = 0
      · subst hu
        rcases hpc with hpc | hpc <;> rw [hpc] <;> nofun
      · rw [hidle u hu]
        nofun
    · by_cases hu : u = 0
      · subst hu
        obtain ⟨ip', hpc⟩ := hpc
        rw [hpc]
        nofun
      · rw [hidle u hu]
        nofun
    · obtain ⟨pc, m, -, rfl⟩ := program.move_eq_some.mp hc'
      dsimp only
      rw [Function.update_of_ne hu, hidle u hu]

/-- One thread starts and sets an address. -/
def startAndSetIp : List Move :=
  .start :: List.replicate 5 .go ++ .setIp ⟨192, 168, 1, 40⟩ :: List.replicate 6 .go

/-- After it. -/
def started : Config where
  pc _ := .idle
  mem :=
    { sampling := true, configuredIp := some ⟨192, 168, 1, 40⟩, modes := [true],
      ips := [⟨192, 168, 1, 40⟩] }

theorem exec_startAndSetIp :
    program.exec (startAndSetIp.map (0, ·)) opened = some started :=
  Concurrent.exec_eq_some (by decide) (by rintro (_ | t) <;> rfl) rfl

theorem shadow_follows_started :
    program.Reaches opened InOrder started ∧
      started.mem.configuredIp = started.mem.ips.getLast? ∧
      (started.mem.sampling = true ↔ started.mem.modes.getLast? = some true) := by
  have hreach : program.Reaches opened InOrder started :=
    Concurrent.Reaches.start.exec (inOrder_alone startAndSetIp fun _ _ => rfl) exec_startAndSetIp
  obtain ⟨hsampling, hip⟩ := (shadow_follows hreach).1 fun _ => rfl
  exact ⟨hreach, hip, hsampling⟩

/-- A stop succeeds and leaves its section; another thread starts; then the stop stores. -/
def stopOvertaken : List (ℕ × Move) :=
  (0, .stop) :: List.replicate 4 (0, .go) ++ (1, .start) :: List.replicate 5 (1, .go) ++ [(0, .go)]

/-- After it. -/
def startForgotten : Config where
  pc _ := .idle
  mem := { modes := [false, true] }

/-- An address is accepted; another thread sets the next one; then the first one is
stored. -/
def ipOvertaken : List (ℕ × Move) :=
  (0, .setIp ⟨192, 168, 1, 40⟩) :: List.replicate 3 (0, .go) ++
    (1, .setIp ⟨192, 168, 1, 41⟩) :: List.replicate 6 (1, .go) ++ List.replicate 3 (0, .go)

/-- After it. -/
def ipForgotten : Config where
  pc _ := .idle
  mem :=
    { configuredIp := some ⟨192, 168, 1, 40⟩, ips := [⟨192, 168, 1, 40⟩, ⟨192, 168, 1, 41⟩] }

/-- **Commands can be overtaken.**  With all calls finished, the LiDAR was last told to
sample and `sampling_requested` is false; and the last accepted address is not the
configured one. -/
theorem shadow_overtaken :
    (∃ c, program.Reaches opened anyMove c ∧ (∀ t, c.pc t = .idle) ∧
      c.mem.modes = [false, true] ∧ c.mem.sampling = false) ∧
    ∃ c, program.Reaches opened anyMove c ∧ (∀ t, c.pc t = .idle) ∧
      c.mem.ips = [⟨192, 168, 1, 40⟩, ⟨192, 168, 1, 41⟩] ∧
      c.mem.configuredIp = some ⟨192, 168, 1, 40⟩ := by
  have hallowed := Concurrent.allowed_anyMove (P := program)
  constructor
  · refine ⟨startForgotten, .exec .start (hallowed stopOvertaken _) ?_, fun _ => rfl, rfl, rfl⟩
    exact Concurrent.exec_eq_some (by decide) (by rintro (_ | _ | t) <;> rfl) rfl
  · refine ⟨ipForgotten, .exec .start (hallowed ipOvertaken _) ?_, fun _ => rfl, rfl, rfl⟩
    exact Concurrent.exec_eq_some (by decide) (by rintro (_ | _ | t) <;> rfl) rfl

end LivoxMid360.Device.Shadow
