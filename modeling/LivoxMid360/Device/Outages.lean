import LivoxMid360.Device.Connection
import LivoxMid360.Lib.InHand

/-!
# Outages are counted once

`Connection` leaves the counters of a Device out.  This file has its own machine for them:
any number of threads that call `declare_disconnected`, from `connection_tick`, from a
command that timed out, from `reboot` and from `disconnect`, or `attempt`, from the worker
and from `reconnect`, and the receive thread that takes the queued events.

Several threads may find the Device connected, and one of them clears the flag, by a
compare-exchange and without a lock; the flag is set again by a plain store under
`cmd_mutex`.  The two counters and the queue are each written later, in a step of their
own.

* `declareStep_matched`, `attemptStep_matched` and `commandStep_matched` say that the functions
  do here what they do in `Connection`.
* `Hand` is what a call has done and not written down yet, and `Account.Step` are the ways
  in which one thread changes the flag, the counters, the queue and its own hand.
  `step_account` says that every step of the machine is one of these; an attempt that has
  found the Device disconnected has `cmd_mutex`, so nobody else sets the flag meanwhile
  (`connected_of_recovering`).
* `Balanced` are the equations between the flag, the counters, the queue and the sums of
  what all threads have in hand.
* The memory keeps the events that were queued so far, each with the call it is from, and
  `Numbered` says that no call queues twice.

`outages_counted_once` is the result, for every state in which none of these calls is in
progress.
-/

namespace LivoxMid360.Device.Outages

open Concurrent (anyMove MutexStep InHand)

/-! ## The machine -/

inductive DisconnectReason
  | kNone
  | kPushTimeout
  | kCommandTimeout
  | kRebootRequested
  | kUser
  deriving DecidableEq

/-- A connection event, and the call that has queued it, which is not in the code. -/
inductive Event
  | disconnected (call : ℕ) (reason : DisconnectReason)
  | reconnected (call : ℕ) (attempts : UInt32)
  deriving DecidableEq

namespace Event

@[grind] def call : Event → ℕ
  | disconnected call _ => call
  | reconnected call _ => call

@[simp] def isDisconnected : Event → Bool
  | disconnected .. => true
  | reconnected .. => false

end Event

/-- What the threads share.  The last three fields are not in the code: the number of
calls that have begun, the events that were queued, and those that the receive thread has
taken. -/
structure Memory where
  connected : Bool := true
  connMutex : Option Thread := none
  cmdMutex : Option Thread := none
  disconnects : ℕ := 0
  reconnects : ℕ := 0
  attempts : UInt32 := 0
  pending : List Event := []
  calls : ℕ := 0
  history : List Event := []
  taken : List Event := []

namespace Memory

/-- Take `conn_mutex`. -/
@[grind =] def lockConn (t : Thread) (m : Memory) : Option Memory :=
  Concurrent.lock Memory.connMutex (fun m holder => { m with connMutex := holder }) t m

/-- Take `cmd_mutex`. -/
@[grind =] def lockCmd (t : Thread) (m : Memory) : Option Memory :=
  Concurrent.lock Memory.cmdMutex (fun m holder => { m with cmdMutex := holder }) t m

/-- A call of `declare_disconnected` or `attempt` begins. -/
@[grind] def begin (m : Memory) : Memory :=
  { m with calls := m.calls + 1 }

/-- `pending.push_back(ev)`. -/
@[grind] def queue (ev : Event) (m : Memory) : Memory :=
  { m with pending := m.pending ++ [ev], history := m.history ++ [ev] }

/-- `events.swap(pending)`. -/
@[grind] def take (m : Memory) : Memory :=
  { m with pending := [], taken := m.taken ++ m.pending }

end Memory

/-- Where a thread is.  `call` is the number of its call of `declare_disconnected` or of
`attempt`. -/
inductive Pc
  | idle
  | tickCheck
  | drainLock
  | drain
  | drainUnlock
  | exchange (call : ℕ) (reason : DisconnectReason)
  | countDisconnect (call : ℕ) (reason : DisconnectReason)
  | clearAttempts (call : ℕ) (reason : DisconnectReason)
  | lockDisconnected (call : ℕ) (reason : DisconnectReason)
  | queueDisconnected (call : ℕ) (reason : DisconnectReason)
  | unlockDisconnected (reason : DisconnectReason)
  | check (reboot : Bool)
  | lock (reboot : Bool)
  | recheck (reboot : Bool)
  | request (reboot : Bool)
  | attemptLock (call : ℕ)
  | attemptCheck (call : ℕ)
  | countAttempt (call : ℕ)
  | infoLock (call : ℕ) (n : UInt32)
  | infoUnlock (call : ℕ) (n : UInt32)
  | connect (call : ℕ) (n : UInt32)
  | swapLock (call : ℕ) (n : UInt32)
  | swapUnlock (call : ℕ) (n : UInt32)
  | replay (call : ℕ) (n : UInt32)
  | countReconnect (call : ℕ) (n : UInt32)
  | lockReconnected (call : ℕ) (n : UInt32)
  | queueReconnected (call : ℕ) (n : UInt32)
  | unlockReconnected
  | storeConnected
  | settleLock
  | settleUnlock
  | unlockCmd
  deriving DecidableEq

/-- Where `declare_disconnected` returns to: `connection_tick` goes on with the queue, a
command gives `cmd_mutex` back. -/
@[grind] def DisconnectReason.caller : DisconnectReason → Pc
  | .kPushTimeout => .drainLock
  | .kCommandTimeout | .kRebootRequested => .unlockCmd
  | .kNone | .kUser => .idle

/-- Where a call goes on whose request has failed, when no outage is declared. -/
@[grind] def Pc.failed : Failure → Pc
  | .cancelled => .settleLock
  | _ => .unlockCmd

/-- One step of a thread. -/
def step (t : Thread) (a : Move) : Pc → Memory → Option (Pc × Memory)
  | .idle, m =>
    match t, a with
    | .receive, .tick => some (.tickCheck, m)
    | .worker, .reconnect => some (.attemptLock m.calls, m.begin)
    | .user _, .reconnect => some (.attemptLock m.calls, m.begin)
    | .user _, .disconnect => some (.exchange m.calls .kUser, m.begin)
    | .user _, .command reboot => some (.check reboot, m)
    | _, _ => none
  -- `connection_tick`
  | .tickCheck, m =>
    if m.connected ∧ a = .timesOut then some (.exchange m.calls .kPushTimeout, m.begin)
    else some (.drainLock, m)
  | .drainLock, m => (m.lockConn t).map (.drain, ·)
  | .drain, m => some (.drainUnlock, m.take)
  | .drainUnlock, m => some (.idle, { m with connMutex := none })
  -- `declare_disconnected`
  | .exchange call reason, m =>
    if m.connected then some (.countDisconnect call reason, { m with connected := false })
    else some (reason.caller, m)
  | .countDisconnect call reason, m =>
    some (.clearAttempts call reason, { m with disconnects := m.disconnects + 1 })
  | .clearAttempts call reason, m => some (.lockDisconnected call reason, { m with attempts := 0 })
  | .lockDisconnected call reason, m => (m.lockConn t).map (.queueDisconnected call reason, ·)
  | .queueDisconnected call reason, m =>
    some (.unlockDisconnected reason, m.queue (.disconnected call reason))
  | .unlockDisconnected reason, m => some (reason.caller, { m with connMutex := none })
  -- a command, or `reboot`
  | .check reboot, m => some (if m.connected then .lock reboot else .idle, m)
  | .lock reboot, m => (m.lockCmd t).map (.recheck reboot, ·)
  | .recheck reboot, m => some (if m.connected then .request reboot else .unlockCmd, m)
  | .request reboot, m =>
    match a with
    | .fails .stale => some (.exchange m.calls .kCommandTimeout, m.begin)
    | .fails f => some (.failed f, m)
    | _ =>
      if reboot then some (.exchange m.calls .kRebootRequested, m.begin)
      else some (.unlockCmd, m)
  -- `attempt`
  | .attemptLock call, m => (m.lockCmd t).map (.attemptCheck call, ·)
  | .attemptCheck call, m => some (if m.connected then .unlockCmd else .countAttempt call, m)
  | .countAttempt call, m =>
    some (.infoLock call (m.attempts + 1), { m with attempts := m.attempts + 1 })
  | .infoLock call n, m => (m.lockConn t).map (.infoUnlock call n, ·)
  | .infoUnlock call n, m => some (.connect call n, { m with connMutex := none })
  | .connect call n, m =>
    match a with
    | .fails f => some (.failed f, m)
    | _ => some (.swapLock call n, m)
  | .swapLock call n, m => (m.lockConn t).map (.swapUnlock call n, ·)
  | .swapUnlock call n, m => some (.replay call n, { m with connMutex := none })
  | .replay call n, m =>
    match a with
    | .fails f => some (.failed f, m)
    | _ => some (.countReconnect call n, m)
  | .countReconnect call n, m =>
    some (.lockReconnected call n, { m with reconnects := m.reconnects + 1 })
  | .lockReconnected call n, m => (m.lockConn t).map (.queueReconnected call n, ·)
  | .queueReconnected call n, m => some (.unlockReconnected, m.queue (.reconnected call n))
  | .unlockReconnected, m => some (.storeConnected, { m with connMutex := none })
  | .storeConnected, m => some (.unlockCmd, { m with connected := true })
  -- `settle_cancel`, and the return
  | .settleLock, m => (m.lockConn t).map (.settleUnlock, ·)
  | .settleUnlock, m => some (.unlockCmd, { m with connMutex := none })
  | .unlockCmd, m => some (.idle, { m with cmdMutex := none })

/-- All threads. -/
def program : Concurrent Thread (fun _ => Pc) Memory Move where
  step := step

abbrev Config := Concurrent.Config (fun _ : Thread => Pc) Memory

/-- The Device is constructed. -/
def constructed : Config where
  pc _ := .idle
  mem := {}

/-! ## The steps of `Connection`

`Connection` has the same functions without the counters, and with steps that do not
matter here.  Each of their steps is made here by the same thread, in one step, in none or in
several, with the same effect on the flag, the mutexes and the queue. -/

section Connection

/-- What the event is there. -/
@[simp] def Event.kind : Event → ConnectionEvent
  | disconnected .. => .kDisconnected
  | reconnected .. => .kReconnected

/-- The memories agree on what both machines have. -/
structure Memory.Agrees (o : Memory) (m : Device.Memory) : Prop where
  connected : o.connected = m.connected
  connMutex : o.connMutex = m.connMutex
  cmdMutex : o.cmdMutex = m.cmdMutex
  pending : o.pending.map Event.kind = m.pending

/-- Steps of one thread. -/
def Steps (t : Thread) : Pc × Memory → Pc × Memory → Prop :=
  Relation.ReflTransGen fun s s' => ∃ a, step t a s.1 s.2 = some s'

/-- Where a call of `declare_disconnected` is. -/
def ofDeclare (call : ℕ) (reason : DisconnectReason) : DeclarePc → Pc
  | .exchange => .exchange call reason
  | .lock => .lockDisconnected call reason
  | .queue => .queueDisconnected call reason
  | .unlock => .unlockDisconnected reason
  | .notify => reason.caller

/-- Where an attempt is; `n` is its number. -/
def ofAttempt (call : ℕ) (n : UInt32) : AttemptPc → Pc
  | .lockCmd => .attemptLock call
  | .check => .attemptCheck call
  | .infoLock => .infoLock call n
  | .infoUnlock => .infoUnlock call n
  | .connect => .connect call n
  | .swapLock => .swapLock call n
  | .swap | .swapUnlock => .swapUnlock call n
  | .replay => .replay call n
  | .clear => .countReconnect call n
  | .queueLock => .lockReconnected call n
  | .queue => .queueReconnected call n
  | .queueUnlock => .unlockReconnected
  | .store => .storeConnected
  | .settleLock => .settleLock
  | .settleUnlock => .settleUnlock
  | .notify | .unlockCmd _ => .unlockCmd

/-- Where a command is; a reboot sets its two flags, and notes that the request has failed,
within `.request`. -/
def ofCommand (reboot : Bool) (call : ℕ) (reason : DisconnectReason) : CommandPc → Pc
  | .check => .check reboot
  | .lock => .lock reboot
  | .recheck => .recheck reboot
  | .armDown | .armSent | .request | .disarm _ | .note _ => .request reboot
  | .settleLock => .settleLock
  | .settleUnlock => .settleUnlock
  | .declare d => ofDeclare call reason d
  | .unlock => .unlockCmd

variable {t : Thread} {a : Move} {m m' : Device.Memory} {o : Memory} (call : ℕ)

open Relation.ReflTransGen (single)
open Concurrent (map_lock_eq_some map_step_eq_some)

/-- **`declare_disconnected` is that of `Connection`.** -/
theorem declareStep_matched {enabled : Bool} (reason : DisconnectReason) {d : DeclarePc}
    {d' : Option DeclarePc} (h : declareStep enabled t d m = some (d', m')) (hm : o.Agrees m) :
    ∃ o', Steps t (ofDeclare call reason d, o)
      (d'.elim reason.caller (ofDeclare call reason), o') ∧ o'.Agrees m' := by
  cases d with
  | exchange =>
    change (if m.connected = true then _ else _) = _ at h
    have hstep : step t .go (.exchange call reason) o = if m.connected = true then
        some (.countDisconnect call reason, { o with connected := false })
      else some (reason.caller, o) := by
      rw [step, hm.connected]
    split_ifs at h hstep <;> cases h
    -- the counters are written in two steps of their own
    · exact ⟨{ o with connected := false, disconnects := o.disconnects + 1, attempts := 0 },
        ((single ⟨_, hstep⟩).tail ⟨.go, rfl⟩).tail ⟨.go, rfl⟩, { hm with connected := rfl }⟩
    · exact ⟨o, single ⟨_, hstep⟩, hm⟩
  | lock =>
    obtain ⟨hfree, rfl, rfl⟩ := map_lock_eq_some.mp h
    exact ⟨_, single ⟨.go, map_lock_eq_some.mpr ⟨hm.connMutex.trans hfree, rfl, rfl⟩⟩,
      { hm with connMutex := rfl }⟩
  | queue =>
    cases h
    refine ⟨_, single ⟨.go, rfl⟩, ?_⟩
    rw [Device.Memory.queueDisconnected]
    split <;> exact { hm with pending := by simp [hm.pending, Memory.queue] }
  | unlock =>
    cases h
    exact ⟨_, single ⟨.go, rfl⟩, { hm with connMutex := rfl }⟩
  | notify =>
    cases h
    exact ⟨o, .refl, { hm with }⟩

/-- **`attempt` is that of `Connection`.** -/
theorem attemptStep_matched (n : UInt32) {pc : AttemptPc} {r : AttemptPc ⊕ Bool}
    (h : attemptStep t a pc m = some (r, m')) (hm : o.Agrees m) :
    ∃ n' o', Steps t (ofAttempt call n pc, o) (r.elim (ofAttempt call n') fun _ => .idle, o') ∧
      o'.Agrees m' := by
  cases pc with
  | check =>
    have hstep : step t .go (.attemptCheck call) o =
        some (if m.connected = true then .unlockCmd else .countAttempt call, o) := by
      rw [step, hm.connected]
    cases h
    split_ifs at hstep ⊢
    · exact ⟨n, o, single ⟨_, hstep⟩, hm⟩
    · exact ⟨o.attempts + 1, { o with attempts := o.attempts + 1 },
        (single ⟨_, hstep⟩).tail ⟨.go, rfl⟩, { hm with }⟩
  | swap | notify =>
    cases h
    exact ⟨n, o, .refl, { hm with }⟩
  | connect | replay =>
    cases a with
    | fails f =>
      cases h
      refine ⟨n, o, single ⟨.fails f, ?_⟩, hm⟩
      cases f <;> rfl
    | _ =>
      cases h
      exact ⟨n, o, single ⟨.go, rfl⟩, hm⟩
  | lockCmd =>
    obtain ⟨hfree, rfl, rfl⟩ := map_lock_eq_some.mp h
    exact ⟨n, _, single ⟨.go, map_lock_eq_some.mpr ⟨hm.cmdMutex.trans hfree, rfl, rfl⟩⟩,
      { hm with cmdMutex := rfl }⟩
  | infoLock | swapLock | queueLock | settleLock =>
    obtain ⟨hfree, rfl, rfl⟩ := map_lock_eq_some.mp h
    exact ⟨n, _, single ⟨.go, map_lock_eq_some.mpr ⟨hm.connMutex.trans hfree, rfl, rfl⟩⟩,
      { hm with connMutex := rfl }⟩
  | infoUnlock | swapUnlock | queueUnlock | settleUnlock =>
    cases h
    exact ⟨n, _, single ⟨.go, rfl⟩, { hm with connMutex := rfl }⟩
  | clear =>
    cases h
    exact ⟨n, _, single ⟨.go, rfl⟩, { hm with }⟩
  | queue =>
    cases h
    exact ⟨n, _, single ⟨.go, rfl⟩, { hm with pending := by simp [hm.pending, Memory.queue] }⟩
  | store =>
    cases h
    exact ⟨n, _, single ⟨.go, rfl⟩, { hm with connected := rfl }⟩
  | unlockCmd =>
    cases h
    exact ⟨n, _, single ⟨.go, rfl⟩, { hm with cmdMutex := rfl }⟩

/-- **A command is that of `Connection`**; it calls `declare_disconnected` for a reason whose
caller gives `cmd_mutex` back. -/
theorem commandStep_matched {enabled reboot : Bool} {reason : DisconnectReason}
    (hreason : reason.caller = .unlockCmd) {c : CommandPc} {c' : Option CommandPc}
    (h : commandStep enabled reboot t a c m = some (c', m')) (hm : o.Agrees m) :
    ∃ n reason' o', reason'.caller = .unlockCmd ∧ Steps t (ofCommand reboot call reason c, o)
      (c'.elim .idle (ofCommand reboot n reason'), o') ∧ o'.Agrees m' := by
  cases c with
  | check | recheck =>
    cases h
    refine ⟨call, reason, o, hreason, single ⟨.go, ?_⟩, hm⟩
    rw [ofCommand, step, hm.connected]
    cases m.connected <;> cases reboot <;> rfl
  | armDown | armSent | disarm =>
    cases h
    exact ⟨call, reason, o, hreason, .refl, { hm with }⟩
  | request =>
    cases a with
    | fails f =>
      cases h
      cases reboot <;> exact ⟨call, reason, o, hreason, .refl, hm⟩
    | _ =>
      cases h
      cases reboot with
      | false => exact ⟨call, reason, o, hreason, single ⟨.go, rfl⟩, hm⟩
      | true => exact ⟨_, .kRebootRequested, o.begin, rfl, single ⟨.go, rfl⟩, { hm with }⟩
  | note f =>
    -- here the request fails when the failure has been noted there
    cases f <;> cases h
    · exact ⟨call, reason, o, hreason, single ⟨.fails .other, rfl⟩, hm⟩
    · exact ⟨call, reason, o, hreason, single ⟨.fails .cancelled, rfl⟩, hm⟩
    · exact ⟨_, .kCommandTimeout, o.begin, rfl, single ⟨.fails .stale, rfl⟩, { hm with }⟩
  | declare d =>
    obtain ⟨d', hdeclare, rfl⟩ := map_step_eq_some.mp h
    obtain ⟨o', hsteps, ho'⟩ := declareStep_matched call reason hdeclare hm
    rw [hreason] at hsteps
    refine ⟨call, reason, o', hreason, ?_, ho'⟩
    cases d' <;> exact hsteps
  | lock =>
    obtain ⟨hfree, rfl, rfl⟩ := map_lock_eq_some.mp h
    exact ⟨call, reason, _, hreason,
      single ⟨.go, map_lock_eq_some.mpr ⟨hm.cmdMutex.trans hfree, rfl, rfl⟩⟩,
      { hm with cmdMutex := rfl }⟩
  | settleLock =>
    obtain ⟨hfree, rfl, rfl⟩ := map_lock_eq_some.mp h
    exact ⟨call, reason, _, hreason,
      single ⟨.go, map_lock_eq_some.mpr ⟨hm.connMutex.trans hfree, rfl, rfl⟩⟩,
      { hm with connMutex := rfl }⟩
  | settleUnlock =>
    cases h
    exact ⟨call, reason, _, hreason, single ⟨.go, rfl⟩, { hm with connMutex := rfl }⟩
  | unlock =>
    cases h
    exact ⟨call, reason, _, hreason, single ⟨.go, rfl⟩, { hm with cmdMutex := rfl }⟩

end Connection

/-! ## `cmd_mutex` -/

/-- Where `declare_disconnected` is called with `cmd_mutex`. -/
@[grind] def DisconnectReason.holdsCmd : DisconnectReason → Bool
  | .kCommandTimeout | .kRebootRequested => true
  | _ => false

/-- Where a thread has `cmd_mutex`. -/
@[grind] def Pc.holdsCmd : Pc → Bool
  | .idle | .tickCheck | .drainLock | .drain | .drainUnlock | .check _ | .lock _ => false
  | .attemptLock _ => false
  | .exchange _ reason | .countDisconnect _ reason | .clearAttempts _ reason => reason.holdsCmd
  | .lockDisconnected _ reason | .queueDisconnected _ reason => reason.holdsCmd
  | .unlockDisconnected reason => reason.holdsCmd
  | _ => true

/-- An attempt that has found the Device disconnected and not set the flag yet. -/
@[grind] def Pc.recovering : Pc → Bool
  | .countAttempt _ | .infoLock .. | .infoUnlock .. | .connect .. => true
  | .swapLock .. | .swapUnlock .. | .replay .. | .countReconnect .. => true
  | .lockReconnected .. | .queueReconnected .. | .unlockReconnected | .storeConnected => true
  | _ => false

@[grind =] theorem DisconnectReason.holdsCmd_caller (reason : DisconnectReason) :
    reason.caller.holdsCmd = reason.holdsCmd := by
  cases reason <;> rfl

@[grind =] theorem DisconnectReason.recovering_caller (reason : DisconnectReason) :
    reason.caller.recovering = false := by
  cases reason <;> rfl

@[grind =] theorem Pc.holdsCmd_failed (f : Failure) : (Pc.failed f).holdsCmd = true := by
  cases f <;> rfl

@[grind =] theorem Pc.recovering_failed (f : Failure) : (Pc.failed f).recovering = false := by
  cases f <;> rfl

variable {pc : Pc}

theorem Pc.holdsCmd_of_recovering (h : pc.recovering = true) : pc.holdsCmd = true := by
  cases pc <;> first | rfl | exact absurd h (by decide) | grind

section Steps

variable {t : Thread} {a : Move} {pc pc' : Pc} {m m' : Memory}

theorem step_cmd (h : step t a pc m = some (pc', m')) :
    MutexStep t m.cmdMutex m'.cmdMutex (pc.holdsCmd = true) (pc'.holdsCmd = true) := by
  unfold step at h
  unfold MutexStep
  split at h <;> grind

/-- The flag is set by the store of an attempt only. -/
theorem step_connected (h : step t a pc m = some (pc', m')) (hset : m'.connected = true) :
    m.connected = true ∨ pc = .storeConnected := by
  unfold step at h
  split at h <;> grind

/-- An attempt goes on when it finds the Device disconnected, and leaves the flag alone. -/
theorem step_recovering (h : step t a pc m = some (pc', m')) (hafter : pc'.recovering = true) :
    m'.connected = m.connected ∧ (pc.recovering = true ∨ m.connected = false) := by
  unfold step at h
  split at h <;> grind

end Steps

theorem respects_cmdMutex :
    program.RespectsMutex Memory.cmdMutex fun _ pc => pc.holdsCmd = true :=
  fun _ _ _ _ _ _ h => step_cmd h

section Reached

variable {ok : Thread → Move → Config → Prop} {c : Config}

theorem holdsCmd_iff (h : program.Reaches constructed ok c) (t : Thread) :
    (c.pc t).holdsCmd = true ↔ c.mem.cmdMutex = some t :=
  h.holds_iff respects_cmdMutex rfl (fun _ => by simp [constructed, Pc.holdsCmd]) t

/-- **While an attempt recovers the Device, the flag is cleared.** -/
theorem connected_of_recovering (h : program.Reaches constructed ok c) (t : Thread)
    (ht : (c.pc t).recovering = true) : c.mem.connected = false := by
  revert t
  refine h.induction (I := fun c => ∀ t, (c.pc t).recovering = true → c.mem.connected = false)
    ?_ ?_
  · intro t ht
    exact absurd ht (by simp [constructed, Pc.recovering])
  · intro u a c l m reached ih _ hstep t ht
    dsimp only at ht ⊢
    by_cases htu : t = u
    · subst htu
      rw [Function.update_self] at ht
      obtain ⟨hsame, hbefore | hbefore⟩ := step_recovering hstep ht
      · rw [hsame, ih t hbefore]
      · rw [hsame, hbefore]
    · -- Another thread would have to be at the store, with the mutex that this one has.
      rw [Function.update_of_ne htu] at ht
      rw [Bool.eq_false_iff]
      intro hset
      rcases step_connected hstep hset with hbefore | hstore
      · rw [ih t ht] at hbefore
        exact Bool.false_ne_true hbefore
      · have hu : (c.pc u).holdsCmd = true := by
          rw [hstore]
          rfl
        exact htu (Concurrent.holds_unique (holdsCmd_iff reached) (Pc.holdsCmd_of_recovering ht) hu)

end Reached

/-! ## The accounts -/

/-- What a call has done so far, as far as the accounts are concerned. -/
inductive Hand
  /-- There is no such call, or nothing of it is missing. -/
  | nothing
  /-- The call has begun. -/
  | begun (call : ℕ)
  /-- The flag is cleared; the disconnect is neither counted nor queued. -/
  | cleared (call : ℕ)
  /-- The disconnect is counted, and not queued. -/
  | counted (call : ℕ)
  /-- The reconnect is counted; it is not queued, and the flag is not set. -/
  | returned (call : ℕ)
  /-- The reconnect is counted and queued, and the flag is not set. -/
  | announced

@[grind] def Pc.hand : Pc → Hand
  | .exchange call _ => .begun call
  | .countDisconnect call _ => .cleared call
  | .clearAttempts call _ | .lockDisconnected call _ | .queueDisconnected call _ => .counted call
  | .attemptLock call | .attemptCheck call | .countAttempt call => .begun call
  | .infoLock call _ | .infoUnlock call _ | .connect call _ => .begun call
  | .swapLock call _ | .swapUnlock call _ | .replay call _ | .countReconnect call _ => .begun call
  | .lockReconnected call _ | .queueReconnected call _ => .returned call
  | .unlockReconnected | .storeConnected => .announced
  | _ => .nothing

namespace Hand

/-- Disconnects that are not counted yet. -/
@[simp] def uncounted : Hand → ℕ
  | cleared _ => 1
  | _ => 0

/-- kDisconnected events that are not queued yet. -/
@[simp] def unqueued : Hand → ℕ
  | cleared _ | counted _ => 1
  | _ => 0

/-- Reconnects that are counted while the flag is still cleared. -/
@[simp] def returning : Hand → ℕ
  | returned _ | announced => 1
  | _ => 0

/-- kReconnected events that are not queued yet. -/
@[simp] def unannounced : Hand → ℕ
  | returned _ => 1
  | _ => 0

/-- The call that may still queue its event. -/
def owes : Hand → Option ℕ
  | begun call | cleared call | counted call | returned call => some call
  | _ => none

end Hand

/-- The part of the memory that is accounted for. -/
structure Account where
  connected : Bool
  disconnects : ℕ
  reconnects : ℕ
  calls : ℕ
  history : List Event

@[grind] def Memory.account (m : Memory) : Account where
  connected := m.connected
  disconnects := m.disconnects
  reconnects := m.reconnects
  calls := m.calls
  history := m.history

/-- What a step of one thread can do to the accounts. -/
inductive Account.Step : Hand → Account → Hand → Account → Prop
  | quiet (h : Hand) (A : Account) : Step h A h A
  | begins (A : Account) : Step .nothing A (.begun A.calls) { A with calls := A.calls + 1 }
  | gives_up (call : ℕ) (A : Account) : Step (.begun call) A .nothing A
  | clears (call : ℕ) (A : Account) (h : A.connected = true) :
      Step (.begun call) A (.cleared call) { A with connected := false }
  | counts (call : ℕ) (A : Account) :
      Step (.cleared call) A (.counted call) { A with disconnects := A.disconnects + 1 }
  | queues (call : ℕ) (reason : DisconnectReason) (A : Account) :
      Step (.counted call) A .nothing
        { A with history := A.history ++ [.disconnected call reason] }
  | counts_return (call : ℕ) (A : Account) :
      Step (.begun call) A (.returned call) { A with reconnects := A.reconnects + 1 }
  | queues_return (call : ℕ) (n : UInt32) (A : Account) :
      Step (.returned call) A .announced { A with history := A.history ++ [.reconnected call n] }
  | sets (A : Account) (h : A.connected = false) :
      Step .announced A .nothing { A with connected := true }

@[grind =] theorem DisconnectReason.hand_caller (reason : DisconnectReason) :
    reason.caller.hand = .nothing := by
  cases reason <;> rfl

@[grind =] theorem Pc.hand_failed (f : Failure) : (Pc.failed f).hand = .nothing := by
  cases f <;> rfl

section Steps

variable {t : Thread} {a : Move} {pc pc' : Pc} {m m' : Memory}

/-- A place that writes to the accounts, or begins a call. -/
@[grind] def Pc.writes : Pc → Bool
  | .idle | .tickCheck | .request _ | .exchange .. | .countDisconnect .. => true
  | .queueDisconnected .. | .countReconnect .. | .queueReconnected .. | .storeConnected => true
  | _ => false

theorem step_quiet (h : step t a pc m = some (pc', m')) (hquiet : pc.writes = false) :
    m'.account = m.account ∧
      (pc'.hand = pc.hand ∨ (∃ call, pc.hand = .begun call) ∧ pc'.hand = .nothing) := by
  unfold step at h
  split at h <;> grind

theorem Account.Step.of_quiet {A : Account} {h h' : Hand}
    (hquiet : h' = h ∨ (∃ call, h = .begun call) ∧ h' = .nothing) : Account.Step h A h' A := by
  obtain rfl | ⟨⟨call, rfl⟩, rfl⟩ := hquiet
  · exact .quiet _ _
  · exact .gives_up _ _

/-- **Every step of the machine is one of these.** -/
theorem step_account (h : step t a pc m = some (pc', m'))
    (hdown : pc.recovering = true → m.connected = false) :
    Account.Step pc.hand m.account pc'.hand m'.account := by
  by_cases hquiet : pc.writes = false
  · obtain ⟨hsame, hhand⟩ := step_quiet h hquiet
    rw [hsame]
    exact .of_quiet hhand
  -- the program points that write the account
  rw [Bool.not_eq_false] at hquiet
  cases pc with
  | idle =>
    simp only [step] at h
    split at h <;> cases h
    · exact .quiet _ _
    · exact .begins _
    · exact .begins _
    · exact .begins _
    · exact .quiet _ _
  | tickCheck =>
    simp only [step] at h
    split_ifs at h <;> cases h
    · exact .begins _
    · exact .quiet _ _
  | exchange call reason =>
    simp only [step] at h
    split_ifs at h with hconnected <;> cases h
    · exact .clears call _ hconnected
    · rw [reason.hand_caller]
      exact .gives_up call _
  | countDisconnect call =>
    cases h
    exact .counts call _
  | queueDisconnected call reason =>
    cases h
    exact .queues call reason _
  | request =>
    simp only [step] at h
    split at h
    · cases h
      exact .begins _
    · cases h
      rw [Pc.hand_failed]
      exact .quiet _ _
    · split_ifs at h <;> cases h
      · exact .begins _
      · exact .quiet _ _
  | countReconnect call =>
    cases h
    exact .counts_return call _
  | queueReconnected call n =>
    cases h
    exact .queues_return call n _
  | storeConnected =>
    cases h
    exact .sets _ (hdown rfl)
  | _ => exact absurd hquiet Bool.false_ne_true

end Steps

/-! ## Balance -/

/-- kDisconnected events so far. -/
def Account.queuedDisconnects (A : Account) : ℕ :=
  A.history.countP Event.isDisconnected

/-- kReconnected events so far. -/
def Account.queuedReconnects (A : Account) : ℕ :=
  A.history.countP fun ev => !ev.isDisconnected

/-- The outages that have not ended. -/
def Account.outage (A : Account) : ℕ :=
  if A.connected then 0 else 1

/-- The flag, the counters and the queue agree, up to what the threads have in hand. -/
def Balanced (hand : Thread → Hand) (A : Account) : Prop :=
  ∃ uncounted unqueued returning unannounced : ℕ,
    InHand Hand.uncounted hand uncounted ∧ InHand Hand.unqueued hand unqueued ∧
    InHand Hand.returning hand returning ∧ InHand Hand.unannounced hand unannounced ∧
    A.disconnects + uncounted + returning = A.reconnects + A.outage ∧
    A.queuedDisconnects + unqueued = A.disconnects + uncounted ∧
    A.queuedReconnects + unannounced = A.reconnects

variable {h' : Hand} {A A' : Account}

/-- What one thread writes is what it has less in hand. -/
theorem Account.Step.balance {h : Hand} (hstep : Account.Step h A h' A') :
    A'.disconnects + h'.uncounted + h'.returning + (A.reconnects + A.outage) =
        A.disconnects + h.uncounted + h.returning + (A'.reconnects + A'.outage) ∧
      A'.queuedDisconnects + h'.unqueued + (A.disconnects + h.uncounted) =
        A.queuedDisconnects + h.unqueued + (A'.disconnects + h'.uncounted) ∧
      A'.queuedReconnects + h'.unannounced + A.reconnects =
        A.queuedReconnects + h.unannounced + A'.reconnects := by
  cases hstep with
  | quiet | begins | gives_up => exact ⟨rfl, rfl, rfl⟩
  | clears call A hconnected | sets A hconnected =>
    refine ⟨?_, ?_, ?_⟩ <;>
      simp [outage, queuedDisconnects, queuedReconnects, hconnected] <;> omega
  | counts | queues | counts_return | queues_return =>
    refine ⟨?_, ?_, ?_⟩ <;> simp [outage, queuedDisconnects, queuedReconnects] <;> omega

theorem Balanced.step {hand : Thread → Hand} {t : Thread} (hbalanced : Balanced hand A)
    (hstep : Account.Step (hand t) A h' A') : Balanced (Function.update hand t h') A' := by
  obtain ⟨_, _, _, _, huncounted, hunqueued, hreturning, hunannounced, hout, hdis, hrec⟩ :=
    hbalanced
  obtain ⟨uncounted, huncounted, h₁⟩ := huncounted.update t h'
  obtain ⟨unqueued, hunqueued, h₂⟩ := hunqueued.update t h'
  obtain ⟨returning, hreturning, h₃⟩ := hreturning.update t h'
  obtain ⟨unannounced, hunannounced, h₄⟩ := hunannounced.update t h'
  obtain ⟨hout', hdis', hrec'⟩ := hstep.balance
  refine ⟨uncounted, unqueued, returning, unannounced, huncounted, hunqueued, hreturning,
    hunannounced, ?_, ?_, ?_⟩ <;> omega

/-! ## The history -/

/-- No call has queued twice: the calls of the history are over, and each has one event. -/
structure Numbered (hand : Thread → Hand) (A : Account) : Prop where
  nodup : (A.history.map Event.call).Nodup
  begun : ∀ ev ∈ A.history, ev.call < A.calls
  owes : ∀ t call, (hand t).owes = some call → call < A.calls ∧ ∀ ev ∈ A.history, ev.call ≠ call
  unique : ∀ t u call, (hand t).owes = some call → (hand u).owes = some call → t = u

/-- What a step does to the history and the calls: what the thread owes after it, it has owed
before or has just begun, and what it queues, it has owed. -/
theorem Account.Step.history {h : Hand} (hstep : Account.Step h A h' A') :
    ∃ new, A'.history = A.history ++ new ∧ A.calls ≤ A'.calls ∧ (new.map Event.call).Nodup ∧
      (∀ ev ∈ new, h.owes = some ev.call ∧ h'.owes = none) ∧
      ∀ call, h'.owes = some call → h.owes = some call ∨ call = A.calls ∧ A.calls < A'.calls := by
  cases hstep with
  | quiet | gives_up | clears | counts | counts_return | sets =>
    exact ⟨[], by simp, le_rfl, by simp, by simp, by simp [Hand.owes]⟩
  | begins => exact ⟨[], by simp, by simp, by simp, by simp, by simp [Hand.owes]⟩
  | queues call reason => exact ⟨[.disconnected call reason], rfl, le_rfl, by simp,
      by simp [Hand.owes, Event.call], by simp [Hand.owes]⟩
  | queues_return call n => exact ⟨[.reconnected call n], rfl, le_rfl, by simp,
      by simp [Hand.owes, Event.call], by simp [Hand.owes]⟩

theorem Numbered.step {hand : Thread → Hand} {t : Thread} (hnumbered : Numbered hand A)
    (hstep : Account.Step (hand t) A h' A') : Numbered (Function.update hand t h') A' := by
  obtain ⟨new, hhistory, hcalls, hnodup, hqueued, howes⟩ := hstep.history
  have hbefore : ∀ u call, (Function.update hand t h' u).owes = some call →
      (hand u).owes = some call ∧ (∀ ev ∈ new, ev.call ≠ call) ∨
        u = t ∧ call = A.calls ∧ A.calls < A'.calls := by
    intro u call h
    by_cases hu : u = t
    · subst hu
      rw [Function.update_self] at h
      refine (howes call h).imp (fun hsame => ⟨hsame, fun ev hev => ?_⟩) fun hbegun => ⟨rfl, hbegun⟩
      rw [(hqueued ev hev).2] at h
      cases h
    · rw [Function.update_of_ne hu] at h
      refine .inl ⟨h, ?_⟩
      rintro ev hev rfl
      exact hu (hnumbered.unique u t _ h (hqueued ev hev).1)
  have hdue := fun ev hev => hnumbered.owes t _ (hqueued ev hev).1
  refine ⟨?_, ?_, ?_, ?_⟩
  · rw [hhistory, List.map_append, List.nodup_append]
    refine ⟨hnumbered.nodup, hnodup, ?_⟩
    intro call mem _ hcall
    obtain ⟨old, hold, rfl⟩ := List.mem_map.mp mem
    obtain ⟨ev, hev, rfl⟩ := List.mem_map.mp hcall
    exact (hdue ev hev).2 old hold
  · rw [hhistory, List.forall_mem_append]
    exact ⟨fun ev hev => (hnumbered.begun ev hev).trans_le hcalls,
      fun ev hev => (hdue ev hev).1.trans_le hcalls⟩
  · intro u call h
    rw [hhistory, List.forall_mem_append]
    obtain ⟨h, hnew⟩ | ⟨-, rfl, hlt⟩ := hbefore u call h
    · obtain ⟨hcall, hold⟩ := hnumbered.owes u call h
      exact ⟨hcall.trans_le hcalls, hold, hnew⟩
    · exact ⟨hlt, fun ev hev => (hnumbered.begun ev hev).ne, fun ev hev => (hdue ev hev).1.ne⟩
  · intro u v call hu hv
    obtain ⟨hu, -⟩ | ⟨rfl, rfl, -⟩ := hbefore u call hu
    · obtain ⟨hv, -⟩ | ⟨-, rfl, -⟩ := hbefore v call hv
      · exact hnumbered.unique u v call hu hv
      · exact absurd (hnumbered.owes u _ hu).1 (lt_irrefl _)
    · obtain ⟨hv, -⟩ | ⟨rfl, -⟩ := hbefore v _ hv
      · exact absurd (hnumbered.owes v _ hv).1 (lt_irrefl _)
      · rfl

/-! ## The run -/

/-- What is queued is taken in order, or still pending. -/
theorem step_pending {t : Thread} {a : Move} {pc' : Pc} {m m' : Memory}
    (h : step t a pc m = some (pc', m')) (hbefore : m.taken ++ m.pending = m.history) :
    m'.taken ++ m'.pending = m'.history := by
  unfold step at h
  split at h <;> grind

/-- A thread is inside `declare_disconnected` or `attempt`.  The last steps of an attempt,
which only give `cmd_mutex` back, are not counted. -/
def Pc.inCall (pc : Pc) : Bool :=
  match pc with
  | .exchange .. | .countDisconnect .. | .clearAttempts .. | .lockDisconnected .. => true
  | .queueDisconnected .. | .unlockDisconnected _ => true
  | .attemptLock _ | .attemptCheck _ => true
  | pc => pc.recovering

theorem Pc.hand_of_not_inCall (h : pc.inCall = false) : pc.hand = .nothing := by
  cases pc <;> first | rfl | exact absurd h (by simp [inCall, recovering])

/-- The accounts of a reached state. -/
theorem balanced_numbered {c : Config} (h : program.Reaches constructed anyMove c) :
    Balanced (Pc.hand ∘ c.pc) c.mem.account ∧ Numbered (Pc.hand ∘ c.pc) c.mem.account ∧
      c.mem.taken ++ c.mem.pending = c.mem.history := by
  refine h.induction (I := fun c => Balanced (Pc.hand ∘ c.pc) c.mem.account ∧
    Numbered (Pc.hand ∘ c.pc) c.mem.account ∧ c.mem.taken ++ c.mem.pending = c.mem.history)
    ?_ ?_
  · refine ⟨⟨0, 0, 0, 0, .zero fun _ => rfl, .zero fun _ => rfl, .zero fun _ => rfl,
      .zero fun _ => rfl, rfl, rfl, rfl⟩, ⟨List.nodup_nil, ?_, ?_, ?_⟩, rfl⟩
    · simp [constructed, Memory.account]
    · simp [constructed, Pc.hand, Hand.owes]
    · simp [constructed, Pc.hand, Hand.owes]
  · rintro t a c l m reached ⟨hbalanced, hnumbered, hpending⟩ - hstep
    have haccount := step_account hstep (connected_of_recovering reached t)
    rw [Function.comp_update]
    exact ⟨hbalanced.step haccount, hnumbered.step haccount, step_pending hstep hpending⟩

/-- **Outages are counted exactly once.**  When no thread is inside `declare_disconnected`
or `attempt`, the counters are the numbers of events queued so far, they differ by one
during an outage and are equal otherwise, every event of the history is from a call of its
own, and the receive thread has taken the events in that order, or will. -/
theorem outages_counted_once {c : Config} (h : program.Reaches constructed anyMove c)
    (hquiet : ∀ t, (c.pc t).inCall = false) :
    c.mem.disconnects = c.mem.history.countP Event.isDisconnected ∧
      (c.mem.reconnects = c.mem.history.countP fun ev => !ev.isDisconnected) ∧
      c.mem.disconnects = c.mem.reconnects + (if c.mem.connected then 0 else 1) ∧
      (c.mem.history.map Event.call).Nodup ∧
      c.mem.history = c.mem.taken ++ c.mem.pending := by
  obtain ⟨⟨_, _, _, _, huncounted, hunqueued, hreturning, hunannounced, hout, hdis, hrec⟩,
    hnumbered, hpending⟩ := balanced_numbered h
  have hhand : ∀ t, (Pc.hand ∘ c.pc) t = .nothing := fun t => Pc.hand_of_not_inCall (hquiet t)
  obtain rfl := huncounted.eq_zero fun t => by rw [hhand]; rfl
  obtain rfl := hunqueued.eq_zero fun t => by rw [hhand]; rfl
  obtain rfl := hreturning.eq_zero fun t => by rw [hhand]; rfl
  obtain rfl := hunannounced.eq_zero fun t => by rw [hhand]; rfl
  exact ⟨hdis.symm, hrec.symm, hout, hnumbered.nodup, hpending.symm⟩

/-- An outage that a user declares and the worker ends. -/
def oneOutage : List (Thread × Move) :=
  (.user 0, .disconnect) :: List.replicate 6 (.user 0, .go) ++
    (.worker, .reconnect) :: List.replicate 15 (.worker, .go)

/-- After it. -/
def recovered : Config where
  pc _ := .idle
  mem :=
    { disconnects := 1
      reconnects := 1
      attempts := 1
      pending := [.disconnected 0 .kUser, .reconnected 1 1]
      calls := 2
      history := [.disconnected 0 .kUser, .reconnected 1 1] }

theorem exec_oneOutage : program.exec oneOutage constructed = some recovered :=
  Concurrent.exec_eq_some (by decide) (by rintro (_ | _ | _ | (_ | t) | _) <;> rfl) rfl

theorem outages_counted_once_oneOutage :
    program.Reaches constructed anyMove recovered ∧
      recovered.mem.disconnects = recovered.mem.reconnects +
        (if recovered.mem.connected then 0 else 1) := by
  have hreach : program.Reaches constructed anyMove recovered :=
    Concurrent.Reaches.start.exec (Concurrent.allowed_anyMove _ _) exec_oneOutage
  exact ⟨hreach, (outages_counted_once hreach fun _ => rfl).2.2.1⟩

end LivoxMid360.Device.Outages
