import LivoxMid360.Device.Connection

/-!
# The worker and the end of its Device

The `Impl` of a Device is destroyed at two places: when `Device::open` fails after the
registration, and at the end of `~Device`.  Its member `worker` must not be joinable
then.  The worker is started by whichever thread declares the first disconnect, which
does not look at how far the owner is.

* `Writes`: what the steps of all threads but the owner do to the memory, said once.
* `step_passive`: no other thread writes what the owner writes, but that it may start the
  worker.
* `ownership`: the thread of the worker belongs to the member `worker` until the
  destructor takes it, and is joined before the destructor goes on.
* `safeToDestroy_iff`: so the `Impl` is destroyed safely exactly when no worker was
  started during an `open` that failed, or after the destructor had taken it.  Both can
  happen (`worker_outlives`): the receive thread can declare a push timeout until the
  Device is removed from the registry, which is the last thing either path does.
-/

namespace LivoxMid360.Device

open Concurrent (anyMove)

/-! ## What a step writes -/

section Writes

variable {enabled : Bool} {t : Thread} {a : Move} {m m' : Memory}

/-- What the steps of `declare_disconnected`, of attempts and commands, of the worker and of
the receive thread do to the memory, whichever place they lead to; `enabled` says that the
Device reconnects by itself. -/
inductive Writes (enabled : Bool) (t : Thread) (m : Memory) : Memory → Prop
  | nothing : Writes enabled t m m
  | lockConn {m' : Memory} (h : m.lockConn t = some m') : Writes enabled t m m'
  | unlockConn : Writes enabled t m m.unlockConn
  | lockCmd {m' : Memory} (h : m.lockCmd t = some m') : Writes enabled t m m'
  | unlockCmd : Writes enabled t m m.unlockCmd
  | notifyAll : Writes enabled t m m.notifyAll
  | disconnect : Writes enabled t m { m with connected := false, declared := m.declared + 1 }
  | queueDisconnected : Writes enabled t m (m.queueDisconnected enabled)
  | queueReconnected : Writes enabled t m { m with pending := m.pending ++ [.kReconnected] }
  | reconnect : Writes enabled t m { m with connected := true }
  | rebootSent (sent : Bool) : Writes enabled t m { m with rebootSent := sent }
  | rebootDown (down : Bool) : Writes enabled t m { m with rebootDown := down }
  | sleep (ht : t = .worker) : Writes enabled t m m.sleep
  | expire {m' : Memory} (h : m.lockConn t = some m') : Writes enabled t m m'.notifyAll
  | exit : Writes enabled t m { m.unlockConn with workerReturned := true }
  | refresh : Writes enabled t m { m with inSnapshot := m.registered, observed := true }
  | drain : Writes enabled t m { m with pending := [] }
  | deliver (e : ConnectionEvent) : Writes enabled t m { m with delivered := m.delivered ++ [e] }

theorem Writes.mapLockConn {S : Type} {s s' : S}
    (h : (m.lockConn t).map (s, ·) = some (s', m')) : Writes enabled t m m' := by
  obtain ⟨m₁, hlock, heq⟩ := Option.map_eq_some_iff.mp h
  cases heq
  exact .lockConn hlock

theorem declareStep_writes {d : DeclarePc} {d' : Option DeclarePc}
    (h : declareStep enabled t d m = some (d', m')) : Writes enabled t m m' := by
  cases d with
  | exchange =>
    simp only [declareStep] at h
    split at h <;> cases h
    · exact .disconnect
    · exact .nothing
  | lock =>
    exact .mapLockConn h
  | queue =>
    cases h
    exact .queueDisconnected
  | unlock =>
    cases h
    exact .unlockConn
  | notify =>
    cases h
    exact .notifyAll

theorem attemptStep_writes (enabled : Bool) {pc : AttemptPc} {r : AttemptPc ⊕ Bool}
    (h : attemptStep t a pc m = some (r, m')) : Writes enabled t m m' := by
  cases pc with
  | lockCmd =>
    obtain ⟨m₁, hlock, heq⟩ := Option.map_eq_some_iff.mp h
    cases heq
    exact .lockCmd hlock
  | infoLock | swapLock | queueLock | settleLock =>
    exact .mapLockConn h
  | connect | replay =>
    cases a <;> cases h <;> exact .nothing
  | check | swap =>
    cases h
    exact .nothing
  | infoUnlock | swapUnlock | queueUnlock | settleUnlock =>
    cases h
    exact .unlockConn
  | clear =>
    cases h
    exact .rebootSent false
  | queue =>
    cases h
    exact .queueReconnected
  | store =>
    cases h
    exact .reconnect
  | notify =>
    cases h
    exact .notifyAll
  | unlockCmd =>
    cases h
    exact .unlockCmd

theorem wake_writes (enabled : Bool) {expired notified pc' : WorkerPc}
    (h : wake a expired notified m = some (pc', m')) : Writes enabled .worker m m' := by
  unfold wake at h
  split_ifs at h
  · obtain ⟨m₁, hlock, heq⟩ := Option.map_eq_some_iff.mp h
    cases heq
    exact .expire hlock
  · exact .mapLockConn h

theorem workerStep_writes (enabled : Bool) {pc pc' : WorkerPc}
    (h : workerStep a pc m = some (pc', m')) : Writes enabled .worker m m' := by
  cases pc with
  | lock | waitWake =>
    simp only [workerStep, Option.ite_none_right_eq_some] at h
    exact .mapLockConn h.2
  | relock =>
    exact .mapLockConn h
  | loopTest | waitTest | stopTest | downRead | downTest | downWaitTest | retryTest | backoffTest =>
    cases h
    exact .nothing
  | waitSleep | downSleep | backoffSleep =>
    cases h
    exact .sleep rfl
  | downWake | backoffWake => exact wake_writes enabled h
  | downClearSent =>
    cases h
    exact .rebootSent false
  | downClearDown =>
    cases h
    exact .rebootDown false
  | unlock =>
    cases h
    exact .unlockConn
  | attempt =>
    obtain ⟨r, hstep, rfl⟩ := Concurrent.map_step_eq_some.mp h
    exact attemptStep_writes enabled hstep
  | exit =>
    cases h
    exact .exit
  | returned => exact absurd h (by simp [workerStep])

theorem receiveStep_writes {pc pc' : ReceivePc}
    (h : receiveStep enabled a pc m = some (pc', m')) : Writes enabled .receive m m' := by
  cases pc with
  | idle =>
    simp only [receiveStep] at h
    split at h
    · cases h
      exact .refresh
    · rw [Option.ite_none_right_eq_some] at h
      cases h.2
      exact .nothing
    · rw [Option.ite_none_right_eq_some] at h
      cases h.2
      exact .nothing
    · exact absurd h (by simp)
  | declare =>
    obtain ⟨r, hstep, rfl⟩ := Concurrent.map_step_eq_some.mp h
    exact declareStep_writes hstep
  | drainLock | pushLock =>
    exact .mapLockConn h
  | drain =>
    cases h
    exact .drain
  | drainUnlock | pushUnlock =>
    cases h
    exact .unlockConn
  | deliver events =>
    cases events <;> cases h
    · exact .nothing
    · exact .deliver _
  | tickCheck | pushReboot | pushTest =>
    cases h
    exact .nothing
  | pushDown =>
    cases h
    exact .rebootDown true
  | pushNotify =>
    cases h
    exact .notifyAll

theorem commandStep_writes {reboot : Bool} {c : CommandPc} {c' : Option CommandPc}
    (h : commandStep enabled reboot t a c m = some (c', m')) : Writes enabled t m m' := by
  cases c with
  | check | recheck =>
    cases h
    exact .nothing
  | lock =>
    obtain ⟨m₁, hlock, heq⟩ := Option.map_eq_some_iff.mp h
    cases heq
    exact .lockCmd hlock
  | armDown =>
    cases h
    exact .rebootDown false
  | armSent =>
    cases h
    exact .rebootSent true
  | request =>
    cases a <;> cases h <;> exact .nothing
  | disarm =>
    cases h
    exact .rebootSent false
  | note f =>
    cases f <;> cases h <;> exact .nothing
  | settleLock =>
    exact .mapLockConn h
  | settleUnlock =>
    cases h
    exact .unlockConn
  | declare =>
    obtain ⟨r, hstep, rfl⟩ := Concurrent.map_step_eq_some.mp h
    exact declareStep_writes hstep
  | unlock =>
    cases h
    exact .unlockCmd

end Writes

/-! ## What the owner alone writes -/

/-- What a step of another thread than the owner does to what the owner writes: nothing,
but that it may start the worker, if the Device reconnects by itself. -/
@[grind] def Passive (enabled : Bool) (m m' : Memory) : Prop :=
  m'.stop = m.stop ∧ m'.phase = m.phase ∧ m'.registered = m.registered ∧
    (m.workerReturned = true → m'.workerReturned = true) ∧
    (m'.worker = m.worker ∧ m'.workerStarted = m.workerStarted ∧ m'.bornIn = m.bornIn ∨
      enabled = true ∧ m.workerStarted = false ∧ m'.worker = true ∧ m'.workerStarted = true ∧
        m'.bornIn = some m.phase)

section Passive

variable {enabled : Bool} {t : Thread} {a : Move} {m m' : Memory}

theorem Passive.queueDisconnected (enabled : Bool) (m : Memory) :
    Passive enabled m (m.queueDisconnected enabled) := by
  unfold Memory.queueDisconnected
  dsimp only
  split_ifs with hstart
  · exact ⟨rfl, rfl, rfl, id, .inr ⟨hstart.1, hstart.2, rfl, rfl, rfl⟩⟩
  · exact ⟨rfl, rfl, rfl, id, .inl ⟨rfl, rfl, rfl⟩⟩

theorem Writes.passive (h : Writes enabled t m m') : Passive enabled m m' := by
  cases h with
  | lockConn hlock | lockCmd hlock | expire hlock =>
    obtain ⟨-, rfl⟩ := Concurrent.lock_eq_some.mp hlock
    exact ⟨rfl, rfl, rfl, id, .inl ⟨rfl, rfl, rfl⟩⟩
  | queueDisconnected => exact .queueDisconnected enabled m
  | exit => exact ⟨rfl, rfl, rfl, fun _ => rfl, .inl ⟨rfl, rfl, rfl⟩⟩
  | _ => exact ⟨rfl, rfl, rfl, id, .inl ⟨rfl, rfl, rfl⟩⟩

theorem userStep_passive {k : ℕ} {pc pc' : UserPc}
    (h : userStep enabled k a pc m = some (pc', m')) : Passive enabled m m' := by
  cases pc with
  | idle =>
    simp only [userStep, Option.ite_none_right_eq_some] at h
    obtain ⟨-, h⟩ := h
    split at h <;> cases h <;> exact ⟨rfl, rfl, rfl, id, .inl ⟨rfl, rfl, rfl⟩⟩
  | command =>
    obtain ⟨⟨r, m₁⟩, hstep, heq⟩ := Option.map_eq_some_iff.mp h
    have hcommand := (commandStep_writes hstep).passive
    cases r <;> cases heq <;> exact hcommand
  | reconnect =>
    obtain ⟨⟨r, m₁⟩, hstep, heq⟩ := Option.map_eq_some_iff.mp h
    have hattempt := (attemptStep_writes enabled hstep).passive
    cases r <;> cases heq <;> exact hattempt
  | disconnect =>
    obtain ⟨⟨r, m₁⟩, hstep, heq⟩ := Option.map_eq_some_iff.mp h
    have hdeclare := (declareStep_writes hstep).passive
    cases r <;> cases heq <;> exact hdeclare

/-- Every thread but the owner is passive. -/
theorem step_passive (ht : t ≠ .owner) {pc pc' : Pc t}
    (h : (program enabled).step t a pc m = some (pc', m')) : Passive enabled m m' := by
  cases t with
  | owner => exact absurd rfl ht
  | receive => exact (receiveStep_writes h).passive
  | worker => exact (workerStep_writes enabled h).passive
  | user => exact userStep_passive h
  | system =>
    cases h
    exact ⟨rfl, rfl, rfl, id, .inl ⟨rfl, rfl, rfl⟩⟩

end Passive

/-! ## Where the worker is owned -/

/-- How far the owner is. -/
@[grind] def OwnerPc.phase : OwnerPc → Phase
  | .hostSetup => .opening
  | .failRemove | .failWait | .destroyed false => .failed
  | .inUse => .inUse
  | .notifyStop | .lockWorker | .takeWorker => .closing
  | _ => .taken

/-- The destructor has joined the worker. -/
@[grind] def OwnerPc.joined : OwnerPc → Bool
  | .remove | .removeWait | .destroyed true => true
  | _ => false

variable {pc : OwnerPc}

@[grind →] theorem OwnerPc.phase_of_joined (h : pc.joined = true) : pc.phase = .taken := by
  unfold joined at h
  split at h
  · rfl
  · rfl
  · rfl
  · exact absurd h (by decide)

/-- The worker was started before the destructor took it. -/
@[grind] def StartedInTime (m : Memory) : Prop :=
  m.bornIn ≠ none ∧ m.bornIn ≠ some .taken

/-- Who owns the thread of the worker: the member `worker` from its start on, until the
destructor takes it. -/
structure Ownership (pc : OwnerPc) (m : Memory) : Prop where
  phase : m.phase = pc.phase
  started : m.workerStarted = true ↔ m.bornIn ≠ none
  late : m.bornIn = some .taken → m.phase = .taken
  member : m.worker = true ↔ m.bornIn = some .taken ∨ StartedInTime m ∧ m.phase ≠ .taken
  unlocking : ∀ joinable, pc = .unlockWorker joinable → (joinable = true ↔ StartedInTime m)
  joining : ∀ joinable, pc = .join joinable → (joinable = true ↔ StartedInTime m)
  joined : pc.joined = true → StartedInTime m → m.workerReturned = true

variable {enabled : Bool} {ok : Thread → Move → Config → Prop} {c : Config}

variable {m m' : Memory}

theorem Ownership.passive (h : Ownership pc m) (hm : Passive enabled m m') : Ownership pc m' := by
  obtain ⟨phase, started, late, member, unlocking, joining, joined⟩ := h
  constructor <;> grind

/-- A step of the owner that leaves the worker alone. -/
theorem Ownership.keep {pc' : OwnerPc} (h : Ownership pc m) (hphase : m'.phase = pc'.phase)
    (hsame : pc'.phase = .taken ↔ pc.phase = .taken)
    (hworker : m'.worker = m.worker ∧ m'.workerStarted = m.workerStarted ∧
      m'.bornIn = m.bornIn ∧ m'.workerReturned = m.workerReturned)
    (hunlocking : ∀ joinable, pc' ≠ .unlockWorker joinable)
    (hjoining : ∀ joinable, pc' ≠ .join joinable) (hjoined : pc'.joined = true → pc.joined = true) :
    Ownership pc' m' := by
  obtain ⟨hmember, hstarted, hborn, hreturned⟩ := hworker
  have htaken : m'.phase = .taken ↔ m.phase = .taken := by
    rw [hphase, h.phase]
    exact hsame
  have hintime : StartedInTime m' ↔ StartedInTime m := by
    unfold StartedInTime
    rw [hborn]
  refine ⟨hphase, ?_, ?_, ?_, fun j hpc => absurd hpc (hunlocking j),
    fun j hpc => absurd hpc (hjoining j), ?_⟩
  · rw [hstarted, hborn]
    exact h.started
  · rw [hborn, htaken]
    exact h.late
  · rw [hmember, hborn, hintime, ne_eq, htaken]
    exact h.member
  · rw [hintime, hreturned]
    exact fun hpc => h.joined (hjoined hpc)

/-- The destructor takes the worker. -/
theorem Ownership.take (h : Ownership .takeWorker m) :
    Ownership (.unlockWorker m.worker) { m with worker := false, phase := .taken } := by
  have hphase : m.phase = .closing := h.phase
  have hborn : m.bornIn ≠ some .taken := by
    intro hborn
    have htaken := h.late hborn
    rw [hphase] at htaken
    exact absurd htaken (by decide)
  refine ⟨rfl, h.started, fun _ => rfl, ?_, fun j hpc => ?_, nofun, nofun⟩
  · exact iff_of_false (by simp) (by rintro (hlate | ⟨-, hne⟩) <;> contradiction)
  · obtain rfl := OwnerPc.unlockWorker.inj hpc
    rw [h.member, hphase]
    exact ⟨fun hor => hor.elim (absurd · hborn) And.left, fun hin => .inr ⟨hin, by decide⟩⟩

theorem Ownership.owner {pc' : OwnerPc} (h : Ownership pc m) {a : Move}
    (hstep : ownerStep a pc m = some (pc', m')) : Ownership pc' m' := by
  have hphase := h.phase
  cases pc with
  | hostSetup =>
    simp only [ownerStep] at hstep
    split at hstep <;> cases hstep
    all_goals
      exact h.keep rfl (by decide) ⟨rfl, rfl, rfl, rfl⟩ nofun nofun nofun
  | failRemove | notifyStop | remove =>
    cases hstep
    exact h.keep hphase Iff.rfl ⟨rfl, rfl, rfl, rfl⟩ nofun nofun id
  | failWait | removeWait =>
    simp only [ownerStep] at hstep
    split at hstep
    · cases hstep
      exact h.keep hphase Iff.rfl ⟨rfl, rfl, rfl, rfl⟩ nofun nofun id
    · exact absurd hstep nofun
  | inUse =>
    simp only [ownerStep] at hstep
    split at hstep
    · cases hstep
      exact h.keep rfl (by decide) ⟨rfl, rfl, rfl, rfl⟩ nofun nofun nofun
    · exact absurd hstep nofun
  | lockWorker =>
    obtain ⟨-, rfl, rfl⟩ := Concurrent.map_lock_eq_some.mp hstep
    exact h.keep hphase Iff.rfl ⟨rfl, rfl, rfl, rfl⟩ nofun nofun nofun
  | takeWorker =>
    cases hstep
    exact h.take
  | unlockWorker =>
    cases hstep
    refine ⟨hphase, h.started, h.late, h.member, nofun, fun j hpc => ?_, nofun⟩
    obtain rfl := OwnerPc.join.inj hpc
    exact h.unlocking _ rfl
  -- `join` returns once the worker has ended, if there was one to join
  | join joinable =>
    simp only [ownerStep] at hstep
    split at hstep
    · rename_i hdone
      cases hstep
      refine ⟨hphase, h.started, h.late, h.member, nofun, nofun, fun _ hin => ?_⟩
      have hjoinable := (h.joining joinable rfl).mpr hin
      exact hdone.resolve_left (by simp [hjoinable])
    · exact absurd hstep nofun
  | destroyed => exact absurd hstep nofun

theorem ownership (h : (program enabled).Reaches registered ok c) :
    Ownership (c.pc .owner) c.mem := by
  refine h.induction (I := fun c => Ownership (c.pc .owner) c.mem) ?_
    fun t a c pc m _ ih _ hstep => ?_
  · constructor <;> simp [registered, OwnerPc.phase, OwnerPc.joined, StartedInTime]
  · dsimp only
    by_cases ht : t = .owner
    · subst ht
      rw [Function.update_self]
      exact ih.owner hstep
    · rw [Function.update_of_ne (Ne.symm ht)]
      exact ih.passive (step_passive ht hstep)

/-- The `Impl` can be destroyed: `worker` is not joinable, and no thread is in
`run_worker`. -/
def SafeToDestroy (m : Memory) : Prop :=
  m.worker = false ∧ (m.workerStarted = true → m.workerReturned = true)

instance (m : Memory) : Decidable (SafeToDestroy m) :=
  inferInstanceAs (Decidable (_ ∧ _))

/-- **Workers and the end of the `Impl`.**  When it is destroyed, the worker is gone
exactly when it was not started during an `open` that failed, and not after the
destructor had taken it. -/
theorem safeToDestroy_iff (h : (program enabled).Reaches registered anyMove c) {opened : Bool}
    (hpc : c.pc .owner = .destroyed opened) :
    SafeToDestroy c.mem ↔
      if opened then c.mem.bornIn ≠ some .taken else c.mem.bornIn = none := by
  obtain ⟨hphase, hstarted, hlate, hmember, -, -, hjoined⟩ := ownership h
  rw [hpc] at hphase hjoined
  unfold SafeToDestroy
  cases opened with
  | false =>
    have hfailed : c.mem.phase = .failed := hphase
    grind
  | true =>
    have hjoin := hjoined rfl
    have htaken : c.mem.phase = .taken := hphase
    grind

/-- A tick of the receive thread that declares a push timeout. -/
def timeoutTick : List (Thread × Move) :=
  [(.receive, .tick), (.receive, .timesOut)] ++ List.replicate 10 (.receive, .go)

/-- `open` with a host setup that succeeds, and a destructor up to the point where it has
looked for a worker. -/
def openAndTake : List (Thread × Move) :=
  (.receive, .refresh) :: List.replicate 6 (.owner, .go)

/-- The destructor from there on. -/
def closeAfterTake : List (Thread × Move) :=
  [(.owner, .go), (.owner, .go), (.receive, .refresh), (.owner, .go)]

/-- A push timeout while `open` sets up the host, which then fails. -/
def timeoutInOpen : List (Thread × Move) :=
  (.receive, .refresh) :: timeoutTick ++
    [(.owner, .fails .other), (.owner, .go), (.receive, .refresh), (.owner, .go)]

/-- A push timeout after the destructor has looked for a worker. -/
def timeoutInDestructor : List (Thread × Move) :=
  openAndTake ++ timeoutTick ++ closeAfterTake

/-- The worker outlives the `Impl` of a failed `open`, and that of a Device. -/
theorem worker_outlives :
    (∃ c, (program true).Reaches registered anyMove c ∧ c.pc .owner = .destroyed false ∧
      ¬SafeToDestroy c.mem) ∧
    ∃ c, (program true).Reaches registered anyMove c ∧ c.pc .owner = .destroyed true ∧
      ¬SafeToDestroy c.mem := by
  have hrun : ∀ moves opened, ((program true).exec moves registered).any (fun c =>
      decide (c.pc .owner = .destroyed opened ∧ ¬SafeToDestroy c.mem)) = true →
        ∃ c, (program true).Reaches registered anyMove c ∧ c.pc .owner = .destroyed opened ∧
          ¬SafeToDestroy c.mem := by
    intro moves opened h
    obtain ⟨c, hreach, hc⟩ := Concurrent.Reaches.of_exec (Concurrent.allowed_anyMove _ _) h
    exact ⟨c, hreach, of_decide_eq_true hc⟩
  exact ⟨hrun timeoutInOpen false (by decide), hrun timeoutInDestructor true (by decide)⟩

/-- A push timeout while the Device is in use, and a worker that sees the stop. -/
def timeoutInUse : List (Thread × Move) :=
  [(.receive, .refresh), (.owner, .go)] ++ timeoutTick ++ List.replicate 5 (.owner, .go) ++
    List.replicate 3 (.worker, .go) ++ closeAfterTake

theorem safeToDestroy_iff_timeoutInUse :
    ∃ c, (program true).Reaches registered anyMove c ∧ c.pc .owner = .destroyed true ∧
      c.mem.workerStarted = true ∧ SafeToDestroy c.mem := by
  have hrun : ((program true).exec timeoutInUse registered).any (fun c =>
      decide (c.pc .owner = .destroyed true ∧ c.mem.workerStarted = true ∧
        c.mem.bornIn ≠ some .taken)) = true := by
    decide
  obtain ⟨c, hreach, hc⟩ := Concurrent.Reaches.of_exec (Concurrent.allowed_anyMove _ _) hrun
  obtain ⟨hpc, hstarted, hborn⟩ := of_decide_eq_true hc
  exact ⟨c, hreach, hpc, hstarted, (safeToDestroy_iff hreach hpc).mpr hborn⟩

end LivoxMid360.Device
