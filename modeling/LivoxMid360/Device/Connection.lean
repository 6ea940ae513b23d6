import Mathlib.Data.Finset.Basic
import LivoxMid360.Lib.Interleaving

/-!
# The threads of a Device

`Device::Impl` is used by several threads at a time: the thread that opens and later
destroys the Device, the receive thread of the Context, the reconnect worker, and any
number of callers.  This file translates what they do to the connection state into one
atomic step per access to shared data: the functions `declare_disconnected`, `attempt`,
`run_worker`, `wait_for_power_down`, `connection_tick`, the part of `on_push` that wakes
the worker, the commands, `Device::open` from the registration on, and the destructor.

* `conn_mutex` and `cmd_mutex` have a holder, and taking one that is held blocks.
* `conn_cv` is the flag `waiting`: the worker, the only thread that waits, sets it as it
  gives up the mutex, and `notify_all` clears it.  Evaluating a predicate and going to
  sleep are separate steps, both with the mutex held.  A wakeup without a notification is
  a step of the `system`.
* What depends on time, on the network or on the caller is the move.  Requests of a
  Session take one step to come back, so everything else can happen during one.
* Memory is sequentially consistent, and a Device is destroyed when no call on it is in
  progress.

The counters and the data that these functions only pass on are left out.

A function of the source is a type of places and a step function on them: `declareStep` for
`declare_disconnected`, `attemptStep` for `attempt`, `workerStep` for `run_worker`, and so on.
A place is named after what its step does next, and a function that calls another one has
the places of the callee among its own.  `program` puts the threads together, and
`registered` is where they start.

`holdsConn_iff` and `holdsCmd_iff` are the results: at every time each mutex is held by the
one thread that is between taking it and giving it back.  What these threads bring about is
the subject of `ConnectionEvents`, `WorkerLifetime` and `Teardown`.
-/

namespace LivoxMid360.Device

/-! ## Shared memory -/

/-- The threads. -/
inductive Thread
  | owner
  | receive
  | worker
  | user (k : ℕ)
  | system
  deriving DecidableEq

/-- The connection events of `Event::Kind`. -/
inductive ConnectionEvent
  | kDisconnected
  | kReconnected
  deriving DecidableEq

/-- How far the owner is. -/
inductive Phase
  | opening
  | failed
  | inUse
  | closing
  | taken
  deriving DecidableEq

/-- The part of `Device::Impl` and of the registry of the Context that the threads share.
The last five fields are not in the code: the events delivered so far, the number of
disconnects declared so far, how far the owner is, how far it was when the worker was
started, and the calls in progress, of which there are none before `open` has returned
and when the Device is destroyed. -/
structure Memory where
  stop : Bool := false
  connected : Bool := true
  connMutex : Option Thread := none
  cmdMutex : Option Thread := none
  waiting : Bool := false
  /-- `worker` is joinable. -/
  worker : Bool := false
  workerStarted : Bool := false
  /-- `run_worker` has returned. -/
  workerReturned : Bool := false
  /-- `reboot_sent_ns` is not zero. -/
  rebootSent : Bool := false
  rebootDown : Bool := false
  pending : List ConnectionEvent := []
  /-- The Device is in `entries`. -/
  registered : Bool := true
  /-- `entries` has not changed since the last snapshot. -/
  observed : Bool := false
  /-- The Device is in the snapshot of the receive thread. -/
  inSnapshot : Bool := false
  delivered : List ConnectionEvent := []
  declared : ℕ := 0
  phase : Phase := .opening
  bornIn : Option Phase := none
  calls : Finset ℕ := ∅

namespace Memory

/-- Take `conn_mutex`. -/
def lockConn (t : Thread) (m : Memory) : Option Memory :=
  Concurrent.lock Memory.connMutex (fun m holder => { m with connMutex := holder }) t m

/-- Give `conn_mutex` back. -/
def unlockConn (m : Memory) : Memory :=
  { m with connMutex := none }

/-- Take `cmd_mutex`. -/
def lockCmd (t : Thread) (m : Memory) : Option Memory :=
  Concurrent.lock Memory.cmdMutex (fun m holder => { m with cmdMutex := holder }) t m

/-- Give `cmd_mutex` back. -/
def unlockCmd (m : Memory) : Memory :=
  { m with cmdMutex := none }

/-- `conn_cv.notify_all()`. -/
def notifyAll (m : Memory) : Memory :=
  { m with waiting := false }

/-- Go to sleep on `conn_cv`. -/
def sleep (m : Memory) : Memory :=
  { m with connMutex := none, waiting := true }

end Memory

/-- How a request fails: for any other reason, because of a cancel or a stop, or with a
timeout when the push is stale too. -/
inductive Failure
  | other
  | cancelled
  | stale
  deriving DecidableEq

/-- What decides between the steps that a thread can take. -/
inductive Move
  | go
  | fails (f : Failure)
  | timesOut
  | refresh
  | tick
  | push (down : Bool)
  | command (reboot : Bool)
  | reconnect
  | disconnect
  deriving DecidableEq

/-! ## `declare_disconnected` -/

/-- The places of `declare_disconnected`.  Only the caller whose exchange clears the flag goes
past the first. -/
inductive DeclarePc
  | exchange
  | lock
  | queue
  | unlock
  | notify
  deriving DecidableEq

/-- The critical section of `declare_disconnected`. -/
def Memory.queueDisconnected (enabled : Bool) (m : Memory) : Memory :=
  let m := { m with pending := m.pending ++ [.kDisconnected] }
  if enabled ∧ m.workerStarted = false then
    { m with workerStarted := true, worker := true, bornIn := some m.phase }
  else m

/-- `declare_disconnected`; `none` is the return. -/
def declareStep (enabled : Bool) (t : Thread) :
    DeclarePc → Memory → Option (Option DeclarePc × Memory)
  | .exchange, m =>
    if m.connected then
      some (some .lock, { m with connected := false, declared := m.declared + 1 })
    else some (none, m)
  | .lock, m => (m.lockConn t).map (some .queue, ·)
  | .queue, m => some (some .unlock, m.queueDisconnected enabled)
  | .unlock, m => some (some .notify, m.unlockConn)
  | .notify, m => some (none, m.notifyAll)

/-! ## `attempt` -/

/-- The places of `attempt`: the check under `cmd_mutex`, the copy of the device info, the
connect of a new Session, its swap for the old one, the replay of the settings, and the way
back to connected; the last three are `settle_cancel` and the return. -/
inductive AttemptPc
  | lockCmd
  | check
  | infoLock
  | infoUnlock
  | connect
  | swapLock
  | swap
  | swapUnlock
  | replay
  | clear
  | queueLock
  | queue
  | queueUnlock
  | store
  | notify
  | settleLock
  | settleUnlock
  | unlockCmd (ok : Bool)
  deriving DecidableEq

/-- Where an attempt goes on that has failed: `settle_cancel` takes the mutex only after
a cancel. -/
def AttemptPc.failed : Failure → AttemptPc
  | .cancelled => .settleLock
  | _ => .unlockCmd false

/-- `attempt` and `attempt_locked`; a `Bool` is the return. -/
def attemptStep (t : Thread) (a : Move) : AttemptPc → Memory → Option ((AttemptPc ⊕ Bool) × Memory)
  | .lockCmd, m => (m.lockCmd t).map (.inl .check, ·)
  -- somebody else may have been faster
  | .check, m => some (.inl (if m.connected then .unlockCmd true else .infoLock), m)
  | .infoLock, m => (m.lockConn t).map (.inl .infoUnlock, ·)
  | .infoUnlock, m => some (.inl .connect, m.unlockConn)
  | .connect, m =>
    match a with
    | .fails f => some (.inl (.failed f), m)
    | _ => some (.inl .swapLock, m)
  | .swapLock, m => (m.lockConn t).map (.inl .swap, ·)
  | .swap, m => some (.inl .swapUnlock, m)
  | .swapUnlock, m => some (.inl .replay, m.unlockConn)
  | .replay, m =>
    match a with
    | .fails f => some (.inl (.failed f), m)
    | _ => some (.inl .clear, m)
  | .clear, m => some (.inl .queueLock, { m with rebootSent := false })
  -- the event is in the queue before the flag is set
  | .queueLock, m => (m.lockConn t).map (.inl .queue, ·)
  | .queue, m => some (.inl .queueUnlock, { m with pending := m.pending ++ [.kReconnected] })
  | .queueUnlock, m => some (.inl .store, m.unlockConn)
  | .store, m => some (.inl .notify, { m with connected := true })
  | .notify, m => some (.inl (.unlockCmd true), m.notifyAll)
  | .settleLock, m => (m.lockConn t).map (.inl .settleUnlock, ·)
  | .settleUnlock, m => some (.inl (.unlockCmd false), m.unlockConn)
  | .unlockCmd ok, m => some (.inr ok, m.unlockCmd)

/-! ## `run_worker` -/

/-- The places of `run_worker`: the wait for an outage, `wait_for_power_down` (`down…`), the
loop over the attempts and the wait between two of them (`backoff…`).  Each wait is a test,
the sleep and the wakeup. -/
inductive WorkerPc
  | lock
  | loopTest
  | waitTest
  | waitSleep
  | waitWake
  | stopTest
  | downRead
  | downTest
  | downWaitTest
  | downSleep
  | downWake
  | downClearSent
  | downClearDown
  | retryTest
  | unlock
  | attempt (a : AttemptPc)
  | relock (ok : Bool)
  | backoffTest
  | backoffSleep
  | backoffWake
  | exit
  | returned
  deriving DecidableEq

/-- The end of a timed wait, when the mutex is free: with the deadline, or after a
notification. -/
def wake (a : Move) (expired notified : WorkerPc) (m : Memory) : Option (WorkerPc × Memory) :=
  if a = .timesOut then (m.lockConn .worker).map fun m => (expired, m.notifyAll)
  else if m.waiting = false then (m.lockConn .worker).map (notified, ·)
  else none

/-- `run_worker` and `wait_for_power_down`. -/
def workerStep (a : Move) : WorkerPc → Memory → Option (WorkerPc × Memory)
  -- there is no thread before `declare_disconnected` has started it
  | .lock, m => if m.workerStarted then (m.lockConn .worker).map (.loopTest, ·) else none
  | .loopTest, m => some (if m.stop then .exit else .waitTest, m)
  | .waitTest, m => some (if m.stop ∨ m.connected = false then .stopTest else .waitSleep, m)
  | .waitSleep, m => some (.waitWake, m.sleep)
  | .waitWake, m =>
    if m.waiting = false then (m.lockConn .worker).map (.waitTest, ·) else none
  | .stopTest, m => some (if m.stop then .exit else .downRead, m)
  | .downRead, m => some (if m.rebootSent then .downTest else .retryTest, m)
  | .downTest, m =>
    some (if m.stop ∨ m.rebootDown ∨ a = .timesOut then .downClearSent else .downWaitTest, m)
  | .downWaitTest, m => some (if m.stop ∨ m.rebootDown then .downTest else .downSleep, m)
  | .downSleep, m => some (.downWake, m.sleep)
  | .downWake, m => wake a .downTest .downWaitTest m
  | .downClearSent, m => some (.downClearDown, { m with rebootSent := false })
  | .downClearDown, m => some (.retryTest, { m with rebootDown := false })
  | .retryTest, m => some (if m.stop ∨ m.connected then .loopTest else .unlock, m)
  | .unlock, m => some (.attempt .lockCmd, m.unlockConn)
  | .attempt pc, m =>
    (attemptStep .worker a pc m).map fun r => (r.1.elim .attempt .relock, r.2)
  | .relock ok, m =>
    (m.lockConn .worker).map (if ok then .loopTest else .backoffTest, ·)
  | .backoffTest, m => some (if m.stop ∨ m.connected then .retryTest else .backoffSleep, m)
  | .backoffSleep, m => some (.backoffWake, m.sleep)
  | .backoffWake, m => wake a .retryTest .backoffTest m
  | .exit, m => some (.returned, { m.unlockConn with workerReturned := true })
  | .returned, _ => none

/-! ## `connection_tick` and `on_push` -/

/-- The places of the receive thread: `connection_tick` with the delivery of the events that
it has taken from the queue, and the end of `on_push`. -/
inductive ReceivePc
  | idle
  | tickCheck
  | declare (d : DeclarePc)
  | drainLock
  | drain
  | drainUnlock (events : List ConnectionEvent)
  | deliver (events : List ConnectionEvent)
  | pushReboot
  | pushDown
  | pushTest
  | pushLock
  | pushNotify
  | pushUnlock
  deriving DecidableEq

/-- The receive thread, as far as the Device is concerned: a snapshot of the registry,
and from it `tick` and `on_push`.  A push may show a state change into ERROR. -/
def receiveStep (enabled : Bool) (a : Move) : ReceivePc → Memory → Option (ReceivePc × Memory)
  | .idle, m =>
    match a with
    | .refresh => some (.idle, { m with inSnapshot := m.registered, observed := true })
    | .tick => if m.inSnapshot then some (.tickCheck, m) else none
    | .push down =>
      if m.inSnapshot then some (if down then .pushReboot else .pushTest, m) else none
    | _ => none
  | .tickCheck, m =>
    some (if m.connected ∧ a = .timesOut then .declare .exchange else .drainLock, m)
  | .declare d, m =>
    (declareStep enabled .receive d m).map fun r => (r.1.elim .drainLock .declare, r.2)
  | .drainLock, m => (m.lockConn .receive).map (.drain, ·)
  | .drain, m => some (.drainUnlock m.pending, { m with pending := [] })
  | .drainUnlock events, m => some (.deliver events, m.unlockConn)
  | .deliver [], m => some (.idle, m)
  | .deliver (e :: events), m => some (.deliver events, { m with delivered := m.delivered ++ [e] })
  | .pushReboot, m => some (if m.rebootSent then .pushDown else .pushTest, m)
  | .pushDown, m => some (.pushTest, { m with rebootDown := true })
  | .pushTest, m => some (if m.rebootDown then .pushLock else .idle, m)
  | .pushLock, m => (m.lockConn .receive).map (.pushNotify, ·)
  | .pushNotify, m => some (.pushUnlock, m.notifyAll)
  | .pushUnlock, m => some (.idle, m.unlockConn)

/-! ## Calls -/

/-- The places of a command: the check without and with `cmd_mutex`, the request, and what is
made of its failure. -/
inductive CommandPc
  | check
  | lock
  | recheck
  | armDown
  | armSent
  | request
  | disarm (f : Failure)
  | note (f : Failure)
  | settleLock
  | settleUnlock
  | declare (d : DeclarePc)
  | unlock
  deriving DecidableEq

/-- A command that sends requests through the Session; `reboot` also arms the power-down
flags and declares the outage.  `none` is the return. -/
def commandStep (enabled reboot : Bool) (t : Thread) (a : Move) :
    CommandPc → Memory → Option (Option CommandPc × Memory)
  | .check, m => some (if m.connected then some .lock else none, m)
  | .lock, m => (m.lockCmd t).map (some .recheck, ·)
  | .recheck, m =>
    some (some (if m.connected then if reboot then .armDown else .request else .unlock), m)
  | .armDown, m => some (some .armSent, { m with rebootDown := false })
  | .armSent, m => some (some .request, { m with rebootSent := true })
  | .request, m =>
    match a with
    | .fails f => some (some (if reboot then .disarm f else .note f), m)
    | _ => some (some (if reboot then .declare .exchange else .unlock), m)
  | .disarm f, m => some (some (.note f), { m with rebootSent := false })
  | .note f, m =>
    match f with
    | .other => some (some .unlock, m)
    | .cancelled => some (some .settleLock, m)
    | .stale => some (some (.declare .exchange), m)
  | .settleLock, m => (m.lockConn t).map (some .settleUnlock, ·)
  | .settleUnlock, m => some (some .unlock, m.unlockConn)
  | .declare d, m =>
    (declareStep enabled t d m).map fun r => (some (r.1.elim .unlock .declare), r.2)
  | .unlock, m => some (none, m.unlockCmd)

/-- The places of a caller. -/
inductive UserPc
  | idle
  | command (reboot : Bool) (c : CommandPc)
  | reconnect (a : AttemptPc)
  | disconnect (d : DeclarePc)
  deriving DecidableEq

/-- A call begins. -/
def Memory.call (k : ℕ) (m : Memory) : Memory :=
  { m with calls := insert k m.calls }

/-- A call returns. -/
def Memory.return (k : ℕ) (m : Memory) : Memory :=
  { m with calls := m.calls.erase k }

/-- A caller, who may use the Device once `open` has returned it. -/
def userStep (enabled : Bool) (k : ℕ) (a : Move) : UserPc → Memory → Option (UserPc × Memory)
  | .idle, m =>
    if m.phase = .inUse then
      match a with
      | .command reboot => some (.command reboot .check, m.call k)
      | .reconnect => some (.reconnect .lockCmd, m.call k)
      | .disconnect => some (.disconnect .exchange, m.call k)
      | _ => none
    else none
  | .command reboot c, m =>
    (commandStep enabled reboot (.user k) a c m).map fun r =>
      r.1.elim (.idle, r.2.return k) fun c => (.command reboot c, r.2)
  | .reconnect pc, m =>
    (attemptStep (.user k) a pc m).map fun r =>
      r.1.elim (fun pc => (.reconnect pc, r.2)) fun _ => (.idle, r.2.return k)
  | .disconnect d, m =>
    (declareStep enabled (.user k) d m).map fun r =>
      r.1.elim (.idle, r.2.return k) fun d => (.disconnect d, r.2)

/-! ## `Device::open` and the destructor -/

/-- The places of the thread that owns the Device: the host setup in `open`, with the removal
from the registry when it fails, and the destructor: stop, join the worker, unregister. -/
inductive OwnerPc
  | hostSetup
  | failRemove
  | failWait
  | inUse
  | notifyStop
  | lockWorker
  | takeWorker
  | unlockWorker (joinable : Bool)
  | join (joinable : Bool)
  | remove
  | removeWait
  | destroyed (opened : Bool)
  deriving DecidableEq

/-- `Device::open` from the registration on, and `~Device`.  `destroyed` is the end of
the `Impl`: of one whose host setup failed, or of one that was in use. -/
def ownerStep (a : Move) : OwnerPc → Memory → Option (OwnerPc × Memory)
  | .hostSetup, m =>
    match a with
    | .fails _ => some (.failRemove, { m with phase := .failed })
    | _ => some (.inUse, { m with phase := .inUse })
  | .failRemove, m => some (.failWait, { m with registered := false, observed := false })
  -- `remove` comes back when the receive thread has a snapshot without the Device
  | .failWait, m => if m.observed then some (.destroyed false, m) else none
  | .inUse, m =>
    if m.calls = ∅ then some (.notifyStop, { m with stop := true, phase := .closing }) else none
  | .notifyStop, m => some (.lockWorker, m.notifyAll)
  | .lockWorker, m => (m.lockConn .owner).map (.takeWorker, ·)
  | .takeWorker, m => some (.unlockWorker m.worker, { m with worker := false, phase := .taken })
  | .unlockWorker joinable, m => some (.join joinable, m.unlockConn)
  | .join joinable, m =>
    if joinable = false ∨ m.workerReturned then some (.remove, m) else none
  | .remove, m => some (.removeWait, { m with registered := false, observed := false })
  | .removeWait, m => if m.observed then some (.destroyed true, m) else none
  | .destroyed _, _ => none

/-! ## The program -/

/-- Where a thread is. -/
@[reducible] def Pc : Thread → Type
  | .owner => OwnerPc
  | .receive => ReceivePc
  | .worker => WorkerPc
  | .user _ => UserPc
  | .system => Unit

/-- The threads of a Device, with `options.reconnect.enabled`. -/
def program (enabled : Bool) : Concurrent Thread Pc Memory Move where
  step
    | .owner, a, pc, m => ownerStep a pc m
    | .receive, a, pc, m => receiveStep enabled a pc m
    | .worker, a, pc, m => workerStep a pc m
    | .user k, a, pc, m => userStep enabled k a pc m
    | .system, _, pc, m => some (pc, m.notifyAll)

/-- A configuration of the threads. -/
abbrev Config := Concurrent.Config Pc Memory

/-- The Device has just been registered. -/
def registered : Config where
  pc
    | .owner => .hostSetup
    | .receive => .idle
    | .worker => .lock
    | .user _ => .idle
    | .system => ()
  mem := {}

/-! ## The mutexes -/

attribute [grind =] Memory.lockConn Memory.unlockConn Memory.lockCmd Memory.unlockCmd
  Memory.notifyAll Memory.sleep Memory.queueDisconnected Memory.call Memory.return wake

/-- Where `declare_disconnected` has `conn_mutex`. -/
@[grind] def DeclarePc.holdsConn : DeclarePc → Bool
  | .queue | .unlock => true
  | _ => false

/-- Where `attempt` has `conn_mutex`. -/
@[grind] def AttemptPc.holdsConn : AttemptPc → Bool
  | .infoUnlock | .swap | .swapUnlock | .queue | .queueUnlock | .settleUnlock => true
  | _ => false

/-- Where `attempt` has `cmd_mutex`. -/
@[grind] def AttemptPc.holdsCmd : AttemptPc → Bool
  | .lockCmd => false
  | _ => true

@[grind =] theorem AttemptPc.holdsConn_failed (f : Failure) : (failed f).holdsConn = false := by
  cases f <;> rfl

@[grind =] theorem AttemptPc.holdsCmd_failed (f : Failure) : (failed f).holdsCmd = true := by
  cases f <;> rfl

/-- Where the worker has `conn_mutex`: from its start to its return, but not while it sleeps
or makes an attempt. -/
@[grind] def WorkerPc.holdsConn : WorkerPc → Bool
  | .lock | .waitWake | .downWake | .relock _ | .backoffWake | .returned => false
  | .attempt a => a.holdsConn
  | _ => true

/-- Where the worker has `cmd_mutex`. -/
@[grind] def WorkerPc.holdsCmd : WorkerPc → Bool
  | .attempt a => a.holdsCmd
  | _ => false

/-- Where the receive thread has `conn_mutex`. -/
@[grind] def ReceivePc.holdsConn : ReceivePc → Bool
  | .declare d => d.holdsConn
  | .drain | .drainUnlock _ | .pushNotify | .pushUnlock => true
  | _ => false

/-- Where a command has `conn_mutex`. -/
@[grind] def CommandPc.holdsConn : CommandPc → Bool
  | .settleUnlock => true
  | .declare d => d.holdsConn
  | _ => false

/-- Where a command has `cmd_mutex`. -/
@[grind] def CommandPc.holdsCmd : CommandPc → Bool
  | .check | .lock => false
  | _ => true

/-- Where a caller has `conn_mutex`. -/
@[grind] def UserPc.holdsConn : UserPc → Bool
  | .idle => false
  | .command _ c => c.holdsConn
  | .reconnect a => a.holdsConn
  | .disconnect d => d.holdsConn

/-- Where a caller has `cmd_mutex`. -/
@[grind] def UserPc.holdsCmd : UserPc → Bool
  | .command _ c => c.holdsCmd
  | .reconnect a => a.holdsCmd
  | _ => false

/-- Where the owner has `conn_mutex`: as it takes the worker out of the `Impl`. -/
@[grind] def OwnerPc.holdsConn : OwnerPc → Bool
  | .takeWorker | .unlockWorker _ => true
  | _ => false

/-- Where a thread has `conn_mutex`. -/
def holdsConn : ∀ t, Pc t → Bool
  | .owner, pc => pc.holdsConn
  | .receive, pc => pc.holdsConn
  | .worker, pc => pc.holdsConn
  | .user _, pc => pc.holdsConn
  | .system, _ => false

/-- Where a thread has `cmd_mutex`. -/
def holdsCmd : ∀ t, Pc t → Bool
  | .worker, pc => pc.holdsCmd
  | .user _, pc => pc.holdsCmd
  | _, _ => false

/-! One lemma for each function and mutex.  A caller's lemma follows from the callee's, since
the places of the callee hold the mutex where the callee does. -/

section Mutexes

variable {enabled : Bool} {t : Thread} {a : Move} {m m' : Memory}

open Concurrent (MutexStep)

theorem declareStep_conn {d : DeclarePc} {d' : Option DeclarePc}
    (h : declareStep enabled t d m = some (d', m')) :
    MutexStep t m.connMutex m'.connMutex (d.holdsConn = true)
      (d'.any DeclarePc.holdsConn = true) := by
  unfold declareStep at h
  unfold MutexStep
  split at h <;> grind

theorem declareStep_cmd {d : DeclarePc} {d' : Option DeclarePc}
    (h : declareStep enabled t d m = some (d', m')) : m'.cmdMutex = m.cmdMutex := by
  unfold declareStep at h
  split at h <;> grind

theorem attemptStep_conn {pc : AttemptPc} {r : AttemptPc ⊕ Bool}
    (h : attemptStep t a pc m = some (r, m')) :
    MutexStep t m.connMutex m'.connMutex (pc.holdsConn = true)
      (r.elim AttemptPc.holdsConn (fun _ => false) = true) := by
  unfold attemptStep at h
  unfold MutexStep
  split at h <;> grind

theorem attemptStep_cmd {pc : AttemptPc} {r : AttemptPc ⊕ Bool}
    (h : attemptStep t a pc m = some (r, m')) :
    MutexStep t m.cmdMutex m'.cmdMutex (pc.holdsCmd = true)
      (r.elim AttemptPc.holdsCmd (fun _ => false) = true) := by
  unfold attemptStep at h
  unfold MutexStep
  split at h <;> grind

theorem ownerStep_conn {pc pc' : OwnerPc} (h : ownerStep a pc m = some (pc', m')) :
    MutexStep .owner m.connMutex m'.connMutex (pc.holdsConn = true)
      (pc'.holdsConn = true) := by
  unfold ownerStep at h
  unfold MutexStep
  split at h <;> grind

theorem ownerStep_cmd {pc pc' : OwnerPc} (h : ownerStep a pc m = some (pc', m')) :
    m'.cmdMutex = m.cmdMutex := by
  unfold ownerStep at h
  split at h <;> grind

theorem workerStep_conn {pc pc' : WorkerPc} (h : workerStep a pc m = some (pc', m')) :
    MutexStep .worker m.connMutex m'.connMutex (pc.holdsConn = true)
      (pc'.holdsConn = true) := by
  cases pc with
  | attempt =>
    obtain ⟨r, hstep, rfl⟩ := Concurrent.map_step_eq_some.mp h
    have hattempt := attemptStep_conn hstep
    cases r <;> exact hattempt
  | _ =>
    unfold workerStep at h
    unfold MutexStep
    grind

theorem workerStep_cmd {pc pc' : WorkerPc} (h : workerStep a pc m = some (pc', m')) :
    MutexStep .worker m.cmdMutex m'.cmdMutex (pc.holdsCmd = true)
      (pc'.holdsCmd = true) := by
  cases pc with
  | attempt =>
    obtain ⟨r, hstep, rfl⟩ := Concurrent.map_step_eq_some.mp h
    have hattempt := attemptStep_cmd hstep
    cases r <;> exact hattempt
  | _ =>
    unfold workerStep at h
    unfold MutexStep
    grind

theorem receiveStep_conn {pc pc' : ReceivePc} (h : receiveStep enabled a pc m = some (pc', m')) :
    MutexStep .receive m.connMutex m'.connMutex (pc.holdsConn = true)
      (pc'.holdsConn = true) := by
  cases pc with
  | declare =>
    obtain ⟨r, hstep, rfl⟩ := Concurrent.map_step_eq_some.mp h
    have hdeclare := declareStep_conn hstep
    cases r <;> exact hdeclare
  | _ =>
    unfold receiveStep at h
    unfold MutexStep
    grind

theorem receiveStep_cmd {pc pc' : ReceivePc} (h : receiveStep enabled a pc m = some (pc', m')) :
    m'.cmdMutex = m.cmdMutex := by
  cases pc with
  | declare =>
    obtain ⟨r, hstep, rfl⟩ := Concurrent.map_step_eq_some.mp h
    exact declareStep_cmd hstep
  | _ =>
    unfold receiveStep at h
    grind

theorem commandStep_conn {reboot : Bool} {c : CommandPc} {c' : Option CommandPc}
    (h : commandStep enabled reboot t a c m = some (c', m')) :
    MutexStep t m.connMutex m'.connMutex (c.holdsConn = true)
      (c'.any CommandPc.holdsConn = true) := by
  cases c with
  | declare =>
    obtain ⟨r, hstep, rfl⟩ := Concurrent.map_step_eq_some.mp h
    have hdeclare := declareStep_conn hstep
    cases r <;> exact hdeclare
  | _ =>
    unfold commandStep at h
    unfold MutexStep
    grind

theorem commandStep_cmd {reboot : Bool} {c : CommandPc} {c' : Option CommandPc}
    (h : commandStep enabled reboot t a c m = some (c', m')) :
    MutexStep t m.cmdMutex m'.cmdMutex (c.holdsCmd = true)
      (c'.any CommandPc.holdsCmd = true) := by
  cases c with
  | declare =>
    obtain ⟨r, hstep, rfl⟩ := Concurrent.map_step_eq_some.mp h
    have hdeclare := declareStep_cmd hstep
    cases r <;> exact .inl ⟨hdeclare, Iff.rfl⟩
  | _ =>
    unfold commandStep at h
    unfold MutexStep
    grind

theorem userStep_conn {k : ℕ} {pc pc' : UserPc} (h : userStep enabled k a pc m = some (pc', m')) :
    MutexStep (.user k) m.connMutex m'.connMutex (pc.holdsConn = true) (pc'.holdsConn = true) := by
  cases pc with
  | idle =>
    unfold userStep at h
    unfold MutexStep
    grind
  | command =>
    obtain ⟨⟨r, m₁⟩, hstep, heq⟩ := Option.map_eq_some_iff.mp h
    have hcommand := commandStep_conn hstep
    cases r <;> cases heq <;> exact hcommand
  | reconnect =>
    obtain ⟨⟨r, m₁⟩, hstep, heq⟩ := Option.map_eq_some_iff.mp h
    have hattempt := attemptStep_conn hstep
    cases r <;> cases heq <;> exact hattempt
  | disconnect =>
    obtain ⟨⟨r, m₁⟩, hstep, heq⟩ := Option.map_eq_some_iff.mp h
    have hdeclare := declareStep_conn hstep
    cases r <;> cases heq <;> exact hdeclare

theorem userStep_cmd {k : ℕ} {pc pc' : UserPc} (h : userStep enabled k a pc m = some (pc', m')) :
    MutexStep (.user k) m.cmdMutex m'.cmdMutex (pc.holdsCmd = true) (pc'.holdsCmd = true) := by
  cases pc with
  | idle =>
    unfold userStep at h
    unfold MutexStep
    grind
  | command =>
    obtain ⟨⟨r, m₁⟩, hstep, heq⟩ := Option.map_eq_some_iff.mp h
    have hcommand := commandStep_cmd hstep
    cases r <;> cases heq <;> exact hcommand
  | reconnect =>
    obtain ⟨⟨r, m₁⟩, hstep, heq⟩ := Option.map_eq_some_iff.mp h
    have hattempt := attemptStep_cmd hstep
    cases r <;> cases heq <;> exact hattempt
  | disconnect =>
    obtain ⟨⟨r, m₁⟩, hstep, heq⟩ := Option.map_eq_some_iff.mp h
    have hdeclare := declareStep_cmd hstep
    cases r <;> cases heq <;> exact .inl ⟨hdeclare, Iff.rfl⟩

/-- Every step leaves `conn_mutex` alone, takes it free or gives it back. -/
theorem respects_connMutex :
    (program enabled).RespectsMutex Memory.connMutex fun t pc => holdsConn t pc = true := by
  intro t a pc m pc' m' h
  cases t with
  | owner => exact ownerStep_conn h
  | receive => exact receiveStep_conn h
  | worker => exact workerStep_conn h
  | user => exact userStep_conn h
  | system =>
    cases h
    exact .inl ⟨rfl, Iff.rfl⟩

/-- Every step leaves `cmd_mutex` alone, takes it free or gives it back. -/
theorem respects_cmdMutex :
    (program enabled).RespectsMutex Memory.cmdMutex fun t pc => holdsCmd t pc = true := by
  intro t a pc m pc' m' h
  cases t with
  | owner => exact .inl ⟨ownerStep_cmd h, Iff.rfl⟩
  | receive => exact .inl ⟨receiveStep_cmd h, Iff.rfl⟩
  | worker => exact workerStep_cmd h
  | user => exact userStep_cmd h
  | system =>
    cases h
    exact .inl ⟨rfl, Iff.rfl⟩

variable {ok : Thread → Move → Config → Prop} {c : Config}

/-- **`conn_mutex`.**  Its holder is the one thread that is where it is held. -/
theorem holdsConn_iff (h : (program enabled).Reaches registered ok c) (t : Thread) :
    holdsConn t (c.pc t) = true ↔ c.mem.connMutex = some t :=
  h.holds_iff respects_connMutex rfl (fun t => by cases t <;> simp [registered, holdsConn,
    OwnerPc.holdsConn, ReceivePc.holdsConn, WorkerPc.holdsConn, UserPc.holdsConn]) t

/-- **`cmd_mutex`.**  Its holder is the one thread that is where it is held. -/
theorem holdsCmd_iff (h : (program enabled).Reaches registered ok c) (t : Thread) :
    holdsCmd t (c.pc t) = true ↔ c.mem.cmdMutex = some t :=
  h.holds_iff respects_cmdMutex rfl (fun t => by cases t <;> simp [registered, holdsCmd,
    WorkerPc.holdsCmd, UserPc.holdsCmd]) t

end Mutexes

end LivoxMid360.Device
