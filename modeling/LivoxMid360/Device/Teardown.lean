import LivoxMid360.Lib.Fairness
import LivoxMid360.Device.WorkerLifetime

/-!
# The destructor of a Device

`~Device` sets `stop` and notifies `conn_cv` without holding `conn_mutex`, takes the
thread of the worker and joins it.  The worker waits on `conn_cv` with the predicate
"stop or not connected", which it evaluates with the mutex held; but the destructor can
set the flag and notify between the evaluation and the sleep.

* `heard`: when that does not happen, the worker does not sleep without a deadline after
  the notification.
* `workerStep_rank`: once the stop is requested, each step brings the worker nearer to
  its return, and `worker_enabled` says what can keep it: the mutexes, which are given
  back (`conn_released`, `cmd_free`), or a notification.
* `destruction_terminates`: so every fair run comes to the return of the worker and to
  the end of the join, provided that the notification is heard.
* `destruction_hangs`: otherwise a fair run may wait forever, with the Device connected
  and the LiDAR pushing.
-/

namespace LivoxMid360.Device

open Concurrent (anyMove Run)

/-! ## Calls and the condition variable -/

/-- What a step leaves alone that neither begins nor ends a call and is not the worker
going to sleep. -/
@[grind] def Calm (m m' : Memory) : Prop :=
  m'.calls = m.calls ∧ (m'.waiting = true → m.waiting = true)

section Calm

variable {enabled : Bool} {t : Thread} {a : Move} {m m' : Memory}

theorem Writes.calls (h : Writes enabled t m m') : m'.calls = m.calls := by
  cases h with
  | lockConn hlock | lockCmd hlock | expire hlock =>
    obtain ⟨-, rfl⟩ := Concurrent.lock_eq_some.mp hlock
    rfl
  | queueDisconnected =>
    unfold Memory.queueDisconnected
    dsimp only
    split_ifs <;> rfl
  | _ => rfl

theorem Writes.calm (h : Writes enabled t m m') (ht : t ≠ .worker) : Calm m m' := by
  refine ⟨h.calls, ?_⟩
  cases h with
  | lockConn hlock | lockCmd hlock =>
    obtain ⟨-, rfl⟩ := Concurrent.lock_eq_some.mp hlock
    exact id
  | queueDisconnected =>
    unfold Memory.queueDisconnected
    dsimp only
    split_ifs <;> exact id
  | notifyAll | expire => exact fun hwaiting => absurd hwaiting Bool.false_ne_true
  | sleep hworker => exact absurd hworker ht
  | _ => exact id

theorem ownerStep_calm {pc pc' : OwnerPc} (h : ownerStep a pc m = some (pc', m')) : Calm m m' := by
  cases pc with
  | hostSetup =>
    cases a <;> cases h <;> exact ⟨rfl, id⟩
  | failRemove | takeWorker | unlockWorker | remove =>
    cases h
    exact ⟨rfl, id⟩
  | failWait | inUse | join | removeWait =>
    simp only [ownerStep, Option.ite_none_right_eq_some] at h
    cases h.2
    exact ⟨rfl, id⟩
  | notifyStop =>
    cases h
    exact ⟨rfl, fun hwaiting => absurd hwaiting Bool.false_ne_true⟩
  | lockWorker =>
    obtain ⟨-, rfl, rfl⟩ := Concurrent.map_lock_eq_some.mp h
    exact ⟨rfl, id⟩
  | destroyed => exact absurd h (by simp [ownerStep])

/-- A caller is the one that begins or ends its call. -/
theorem userStep_calm {k : ℕ} {pc pc' : UserPc} (h : userStep enabled k a pc m = some (pc', m')) :
    (m'.waiting = true → m.waiting = true) ∧
      (m'.calls = m.calls ∧ pc ≠ .idle ∧ pc' ≠ .idle ∨
        m'.calls = insert k m.calls ∧ pc = .idle ∧ pc' ≠ .idle ∧ m.phase = .inUse ∨
        m'.calls = m.calls.erase k ∧ pc' = .idle) := by
  cases pc with
  | idle =>
    simp only [userStep, Option.ite_none_right_eq_some] at h
    obtain ⟨huse, h⟩ := h
    split at h <;> cases h <;> exact ⟨id, .inr (.inl ⟨rfl, rfl, by simp, huse⟩)⟩
  | command =>
    obtain ⟨⟨r, m₁⟩, hstep, heq⟩ := Option.map_eq_some_iff.mp h
    obtain ⟨hcalls, hwaiting⟩ := (commandStep_writes hstep).calm (by simp)
    cases r <;> cases heq
    · exact ⟨hwaiting, .inr (.inr ⟨congrArg (·.erase k) hcalls, rfl⟩)⟩
    · exact ⟨hwaiting, .inl ⟨hcalls, by simp, by simp⟩⟩
  | reconnect =>
    obtain ⟨⟨r, m₁⟩, hstep, heq⟩ := Option.map_eq_some_iff.mp h
    obtain ⟨hcalls, hwaiting⟩ := (attemptStep_writes enabled hstep).calm (by simp)
    cases r <;> cases heq
    · exact ⟨hwaiting, .inl ⟨hcalls, by simp, by simp⟩⟩
    · exact ⟨hwaiting, .inr (.inr ⟨congrArg (·.erase k) hcalls, rfl⟩)⟩
  | disconnect =>
    obtain ⟨⟨r, m₁⟩, hstep, heq⟩ := Option.map_eq_some_iff.mp h
    obtain ⟨hcalls, hwaiting⟩ := (declareStep_writes hstep).calm (by simp)
    cases r <;> cases heq
    · exact ⟨hwaiting, .inr (.inr ⟨congrArg (·.erase k) hcalls, rfl⟩)⟩
    · exact ⟨hwaiting, .inl ⟨hcalls, by simp, by simp⟩⟩

/-- Only the worker goes to sleep. -/
theorem step_waiting (ht : t ≠ .worker) {pc pc' : Pc t}
    (h : (program enabled).step t a pc m = some (pc', m')) :
    m'.waiting = true → m.waiting = true := by
  cases t with
  | owner => exact (ownerStep_calm h).2
  | receive => exact ((receiveStep_writes h).calm (by simp)).2
  | worker => exact absurd rfl ht
  | user => exact (userStep_calm h).1
  | system =>
    cases h
    exact fun hwaiting => absurd hwaiting (by simp [Memory.notifyAll])

end Calm

/-! ## From the stop request on -/

/-- The destructor has requested the stop. -/
@[grind] def OwnerPc.stopping : OwnerPc → Bool
  | .hostSetup | .failRemove | .failWait | .inUse | .destroyed false => false
  | _ => true

/-- The destructor has notified the worker. -/
@[grind] def OwnerPc.notified : OwnerPc → Bool
  | .notifyStop => false
  | pc => pc.stopping

variable {pc : OwnerPc}

theorem OwnerPc.stopping_of_notified (h : pc.notified = true) : pc.stopping = true := by
  unfold notified at h
  split at h
  · exact absurd h Bool.false_ne_true
  · exact h

theorem OwnerPc.notified_eq (h : pc ≠ .notifyStop) : pc.notified = pc.stopping := by
  cases pc with
  | notifyStop => exact absurd rfl h
  | _ => rfl

/-- The destructor has `conn_mutex` between the stop request and the join. -/
theorem OwnerPc.stopping_of_holdsConn (h : pc.holdsConn = true) :
    pc.stopping = true ∧ pc.joined = false := by
  cases pc with
  | takeWorker | unlockWorker => exact ⟨rfl, rfl⟩
  | _ => exact absurd h Bool.false_ne_true

/-- The condition under which the notification of the destructor is heard: it does not
come between the worker's test of its predicate and its going to sleep. -/
def NotifyHeard : Thread → Move → Config → Prop :=
  fun t _ c => t = .owner → c.pc .owner = .notifyStop → c.pc .worker ≠ .waitSleep

instance (t : Thread) (a : Move) (c : Config) : Decidable (NotifyHeard t a c) :=
  inferInstanceAs (Decidable (_ → _ → _))

section Reached

variable {enabled : Bool} {ok : Thread → Move → Config → Prop} {c : Config}

variable (h : (program enabled).Reaches registered ok c)

include h

theorem stop_eq : c.mem.stop = (c.pc .owner).stopping := by
  refine h.induction (I := fun c => c.mem.stop = (c.pc .owner).stopping) rfl
    fun t a c pc m _ ih _ hstep => ?_
  dsimp only
  by_cases ht : t = .owner
  · subst ht
    rw [Function.update_self]
    have howner : ownerStep a (c.pc .owner) c.mem = some (pc, m) := hstep
    unfold ownerStep at howner
    split at howner <;> grind
  · rw [Function.update_of_ne (Ne.symm ht), ← ih]
    exact (step_passive ht hstep).1

/-- The calls in progress are those of the callers that are not idle. -/
theorem mem_calls_iff (k : ℕ) : k ∈ c.mem.calls ↔ c.pc (.user k) ≠ .idle := by
  refine h.induction (I := fun c => k ∈ c.mem.calls ↔ c.pc (.user k) ≠ .idle)
    (by simp [registered]) fun t a c pc m _ ih _ hstep => ?_
  dsimp only
  have hother : t ≠ .user k → m.calls = c.mem.calls →
      (k ∈ m.calls ↔ Function.update c.pc t pc (.user k) ≠ .idle) := by
    intro ht hcalls
    rw [Function.update_of_ne (Ne.symm ht), hcalls]
    exact ih
  cases t with
  | owner => exact hother (by simp) (ownerStep_calm hstep).1
  | receive => exact hother (by simp) (receiveStep_writes hstep).calls
  | worker => exact hother (by simp) (workerStep_writes enabled hstep).calls
  | system =>
    cases hstep
    exact hother (by simp) rfl
  | user j =>
    obtain ⟨-, hcalls⟩ := userStep_calm hstep
    by_cases hjk : j = k
    · subst hjk
      rw [Function.update_self]
      rcases hcalls with ⟨hcalls, hbefore, hafter⟩ | ⟨hcalls, hbefore, hafter, -⟩ |
        ⟨hcalls, hafter⟩
      · rw [hcalls, ih]
        exact iff_of_true hbefore hafter
      · rw [hcalls]
        exact iff_of_true (Finset.mem_insert_self j _) hafter
      · rw [hcalls, hafter]
        exact iff_of_false (Finset.notMem_erase j _) (by simp)
    · rw [Function.update_of_ne (by simpa using Ne.symm hjk), ← ih]
      rcases hcalls with ⟨hcalls, -⟩ | ⟨hcalls, -⟩ | ⟨hcalls, -⟩
      · rw [hcalls]
      · rw [hcalls, Finset.mem_insert, or_iff_right (Ne.symm hjk)]
      · rw [hcalls, Finset.mem_erase, and_iff_right (Ne.symm hjk)]

/-- Calls are made only while the Device is in use. -/
theorem phase_of_calls (hcalls : c.mem.calls ≠ ∅) : c.mem.phase = .inUse := by
  revert hcalls
  refine h.induction (I := fun c => c.mem.calls ≠ ∅ → c.mem.phase = .inUse) (by simp [registered])
    fun t a c pc m hreach ih _ hstep => ?_
  dsimp only
  by_cases ht : t = .owner
  · subst ht
    have howner : ownerStep a (c.pc .owner) c.mem = some (pc, m) := hstep
    have hphase := (ownership hreach).phase
    unfold ownerStep at howner
    split at howner <;> grind
  · rw [(step_passive ht hstep).2.1]
    cases t with
    | owner => exact absurd rfl ht
    | receive => rwa [(receiveStep_writes hstep).calls]
    | worker => rwa [(workerStep_writes enabled hstep).calls]
    | system =>
      cases hstep
      exact ih
    | user =>
      intro hcalls
      rcases (userStep_calm hstep).2 with ⟨heq, -⟩ | ⟨-, -, -, huse⟩ | ⟨heq, -⟩
      · exact ih (heq ▸ hcalls)
      · exact huse
      · refine ih fun hnone => hcalls ?_
        rw [heq, hnone]
        rfl

/-- Once the stop is requested, no call is in progress. -/
theorem user_idle (hstop : c.mem.stop = true) (k : ℕ) : c.pc (.user k) = .idle := by
  by_contra hk
  have hcalls : c.mem.calls ≠ ∅ := Finset.ne_empty_of_mem ((mem_calls_iff h k).mpr hk)
  have hphase := (phase_of_calls h hcalls).symm.trans (ownership h).phase
  rw [stop_eq h] at hstop
  cases hpc : c.pc .owner with
  | destroyed opened => cases opened <;> simp_all [OwnerPc.stopping, OwnerPc.phase]
  | _ => simp_all [OwnerPc.stopping, OwnerPc.phase]

/-- Then `cmd_mutex` is free, or it is the worker's. -/
theorem cmd_free (hstop : c.mem.stop = true) :
    c.mem.cmdMutex = none ∨ c.mem.cmdMutex = some .worker := by
  cases hheld : c.mem.cmdMutex with
  | none => exact .inl rfl
  | some t =>
    have hholds := (holdsCmd_iff h t).mpr hheld
    cases t with
    | worker => exact .inr rfl
    | user k =>
      rw [user_idle h hstop k] at hholds
      exact absurd hholds Bool.false_ne_true
    | owner | receive | system => exact absurd hholds Bool.false_ne_true

end Reached

/-! ## The worker comes to its end -/

/-- How many steps an attempt takes at most. -/
@[grind] def AttemptPc.rank : AttemptPc → ℕ
  | .lockCmd => 16
  | .check => 15
  | .infoLock => 14
  | .infoUnlock => 13
  | .connect => 12
  | .swapLock => 11
  | .swap => 10
  | .swapUnlock => 9
  | .replay => 8
  | .clear => 7
  | .queueLock => 6
  | .queue => 5
  | .queueUnlock => 4
  | .store => 3
  | .notify => 2
  | .settleLock => 3
  | .settleUnlock => 2
  | .unlockCmd _ => 1

/-- How many steps the worker takes at most, once the stop is requested. -/
@[grind] def WorkerPc.rank : WorkerPc → ℕ
  | .lock => 3
  | .loopTest => 2
  | .waitTest => 3
  | .waitSleep => 5
  | .waitWake => 4
  | .stopTest => 2
  | .downRead => 7
  | .downTest => 6
  | .downWaitTest => 7
  | .downSleep => 9
  | .downWake => 8
  | .downClearSent => 5
  | .downClearDown => 4
  | .retryTest => 3
  | .unlock => 22
  | .attempt a => 5 + a.rank
  | .relock _ => 5
  | .backoffTest => 4
  | .backoffSleep => 6
  | .backoffWake => 5
  | .exit => 1
  | .returned => 0

/-- How many steps the receive thread has left in a critical section. -/
@[grind] def ReceivePc.rank : ReceivePc → ℕ
  | .declare .queue | .drain | .pushNotify => 2
  | .declare .unlock | .drainUnlock _ | .pushUnlock => 1
  | _ => 0

/-- How many steps the destructor takes at most to be done with the worker. -/
@[grind] def OwnerPc.rank : OwnerPc → ℕ
  | .notifyStop => 5
  | .lockWorker => 4
  | .takeWorker => 3
  | .unlockWorker _ => 2
  | .join _ => 1
  | _ => 0

section Rank

variable {enabled : Bool} {t : Thread} {a : Move} {m m' : Memory}

@[grind =] theorem AttemptPc.rank_failed (f : Failure) :
    (failed f).rank = if f = .cancelled then 3 else 1 := by
  cases f <;> rfl

theorem attemptStep_rank {pc : AttemptPc} {r : AttemptPc ⊕ Bool}
    (h : attemptStep t a pc m = some (r, m')) :
    r.elim AttemptPc.rank (fun _ => 0) < pc.rank := by
  unfold attemptStep at h
  split at h <;> grind

theorem workerStep_rank {pc pc' : WorkerPc} (hstop : m.stop = true)
    (h : workerStep a pc m = some (pc', m')) : pc'.rank < pc.rank := by
  cases pc with
  | attempt =>
    obtain ⟨r, hstep, rfl⟩ := Concurrent.map_step_eq_some.mp h
    have hattempt := attemptStep_rank hstep
    cases r with
    | inl => exact Nat.add_lt_add_left hattempt 5
    | inr => exact Nat.lt_add_of_pos_right hattempt
  | _ =>
    unfold workerStep at h
    grind

theorem receiveStep_rank {pc pc' : ReceivePc} (hin : pc.holdsConn = true)
    (hout : pc'.holdsConn = true) (h : receiveStep enabled a pc m = some (pc', m')) :
    pc'.rank < pc.rank := by
  cases pc with
  | declare =>
    obtain ⟨r, hstep, rfl⟩ := Concurrent.map_step_eq_some.mp h
    unfold declareStep at hstep
    split at hstep <;> grind
  | drain | drainUnlock | pushNotify | pushUnlock =>
    unfold receiveStep at h
    grind
  | _ => exact absurd hin Bool.false_ne_true

theorem ownerStep_rank {pc pc' : OwnerPc} (hin : pc.stopping = true) (hjoined : pc.joined = false)
    (h : ownerStep a pc m = some (pc', m')) : pc'.rank < pc.rank := by
  cases pc with
  | notifyStop | takeWorker | unlockWorker _ =>
    cases h
    exact Nat.lt_succ_self _
  | lockWorker =>
    obtain ⟨-, rfl, -⟩ := Concurrent.map_lock_eq_some.mp h
    exact Nat.lt_succ_self _
  | join _ =>
    simp only [ownerStep, Option.ite_none_right_eq_some] at h
    cases h.2
    exact Nat.lt_succ_self _
  | remove | removeWait => exact absurd hjoined (by decide)
  | destroyed => exact absurd h (by simp [ownerStep])
  | hostSetup | failRemove | failWait | inUse => exact absurd hin Bool.false_ne_true

end Rank

/-! ## No thread is blocked for good -/

section Blocked

variable {enabled : Bool} {c : Config}

/-- The worker goes on unless a mutex or a notification keeps it. -/
theorem worker_enabled (hstarted : c.mem.workerStarted = true)
    (hreturned : c.pc .worker ≠ .returned)
    (hconn : c.mem.connMutex = none ∨ (c.pc .worker).holdsConn = true)
    (hcmd : c.mem.cmdMutex = none ∨ (c.pc .worker).holdsCmd = true)
    (hheard : c.pc .worker = .waitWake → c.mem.waiting = false) :
    (program enabled).Enabled .worker c := by
  refine ⟨.timesOut, ?_⟩
  change (workerStep .timesOut (c.pc .worker) c.mem).isSome = true
  cases hpc : c.pc .worker with
  | attempt pc =>
    rw [hpc] at hconn hcmd
    rw [workerStep, Option.isSome_map]
    cases pc <;> unfold attemptStep <;> grind
  | _ =>
    unfold workerStep
    grind

/-- In a critical section the receive thread is not blocked. -/
theorem receive_enabled (hpc : (c.pc .receive).holdsConn = true) :
    (program enabled).Enabled .receive c := by
  refine ⟨.go, ?_⟩
  change (receiveStep enabled .go (c.pc .receive) c.mem).isSome = true
  generalize c.pc .receive = pc at hpc ⊢
  cases pc with
  | declare d =>
    cases d with
    | queue | unlock => rfl
    | _ => exact absurd hpc Bool.false_ne_true
  | drain | drainUnlock | pushNotify | pushUnlock => rfl
  | _ => exact absurd hpc Bool.false_ne_true

/-- The destructor goes on unless the mutex or the worker keeps it. -/
theorem owner_enabled (hin : (c.pc .owner).stopping = true)
    (hjoined : (c.pc .owner).joined = false)
    (hconn : c.mem.connMutex = none ∨ (c.pc .owner).holdsConn = true)
    (hreturned : c.pc .owner ≠ .join true ∨ c.mem.workerReturned = true) :
    (program enabled).Enabled .owner c := by
  refine ⟨.go, ?_⟩
  change (ownerStep .go (c.pc .owner) c.mem).isSome = true
  generalize c.pc .owner = pc at hin hjoined hconn hreturned ⊢
  cases pc with
  | destroyed opened =>
    cases opened with
    | false => exact absurd hin Bool.false_ne_true
    | true => exact absurd hjoined (by decide)
  | _ =>
    unfold ownerStep
    grind

end Blocked

/-! ## The notification of the destructor -/

section Heard

variable {enabled : Bool} {c : Config}

/-- A worker that sees the stop does not go to sleep without a deadline. -/
theorem workerStep_awake {a : Move} {pc pc' : WorkerPc} {m m' : Memory} (hstop : m.stop = true)
    (hsleep : pc ≠ .waitSleep) (h : workerStep a pc m = some (pc', m')) :
    pc' ≠ .waitSleep ∧ pc' ≠ .waitWake := by
  cases pc with
  | attempt =>
    obtain ⟨r, -, rfl⟩ := Concurrent.map_step_eq_some.mp h
    cases r <;> exact ⟨nofun, nofun⟩
  | _ =>
    unfold workerStep at h
    grind

theorem ownerStep_notified {a : Move} {pc pc' : OwnerPc} {m m' : Memory}
    (h : ownerStep a pc m = some (pc', m')) (hnotified : pc'.notified = true) :
    pc = .notifyStop ∧ m'.waiting = false ∨ pc.notified = true := by
  unfold ownerStep at h
  split at h <;> grind

/-- **No lost wakeup.**  When the notification of the destructor is heard, the worker
does not sleep without a deadline after it. -/
theorem heard (h : (program enabled).Reaches registered NotifyHeard c)
    (hnotified : (c.pc .owner).notified = true) :
    c.pc .worker ≠ .waitSleep ∧ (c.pc .worker = .waitWake → c.mem.waiting = false) := by
  revert hnotified
  refine h.induction (I := fun c => (c.pc .owner).notified = true → c.pc .worker ≠ .waitSleep ∧
    (c.pc .worker = .waitWake → c.mem.waiting = false)) (by simp [registered, OwnerPc.notified,
      OwnerPc.stopping]) fun t a c pc m hreach ih hok hstep => ?_
  dsimp only
  by_cases hworker : t = .worker
  · subst hworker
    rw [Function.update_self, Function.update_of_ne (by simp)]
    intro hnotified
    have hstop : c.mem.stop = true :=
      (stop_eq hreach).trans (OwnerPc.stopping_of_notified hnotified)
    obtain ⟨hsleep, hwake⟩ := workerStep_awake hstop (ih hnotified).1 hstep
    exact ⟨hsleep, fun hpc => absurd hpc hwake⟩
  · rw [Function.update_of_ne (Ne.symm hworker)]
    have hbefore : (c.pc .owner).notified = true →
        c.pc .worker ≠ .waitSleep ∧ (c.pc .worker = .waitWake → m.waiting = false) := by
      intro hnotified
      obtain ⟨hsleep, hwake⟩ := ih hnotified
      refine ⟨hsleep, fun hpc => Bool.eq_false_iff.mpr fun hwaiting => ?_⟩
      exact Bool.eq_false_iff.mp (hwake hpc) (step_waiting hworker hstep hwaiting)
    by_cases howner : t = .owner
    · subst howner
      rw [Function.update_self]
      intro hnotified
      rcases ownerStep_notified hstep hnotified with ⟨hpc, hwaiting⟩ | hnotified
      · exact ⟨hok rfl hpc, fun _ => hwaiting⟩
      · exact hbefore hnotified
    · rw [Function.update_of_ne (Ne.symm howner)]
      exact hbefore

end Heard

/-! ## Every fair destruction comes to its end -/

section Fair

variable {enabled : Bool} {ok : Thread → Move → Config → Prop} {r : (program enabled).Run}

variable {t : Thread} {a : Move} {c c' : Config}

/-- What a step of the owner does not take back. -/
theorem ownerStep_keeps {pc pc' : OwnerPc} {m m' : Memory} (h : ownerStep a pc m = some (pc', m')) :
    (m.stop = true → m'.stop = true) ∧ m'.workerStarted = m.workerStarted ∧
      m'.workerReturned = m.workerReturned ∧ (pc.notified = true → pc'.notified = true) := by
  unfold ownerStep at h
  split at h <;> grind

/-- The stop request is not taken back. -/
theorem stop_stays (hstop : c.mem.stop = true) (h : (program enabled).move t a c = some c') :
    c'.mem.stop = true := by
  obtain ⟨pc, m, hstep, rfl⟩ := (program enabled).move_eq_some.mp h
  by_cases ht : t = .owner
  · subst ht
    exact (ownerStep_keeps hstep).1 hstop
  · exact (step_passive ht hstep).1.trans hstop

variable {n : ℕ}

theorem stop_from {m : ℕ} (hstop : (r.config n).mem.stop = true) (hm : m ≥ n) :
    (r.config m).mem.stop = true :=
  Run.stays (I := fun c : Config => c.mem.stop = true) (fun _ _ _ _ => stop_stays) hstop hm

/-- During the destruction `conn_mutex` is free for the worker again and again. -/
theorem conn_released (hreach : ∀ n, (program enabled).Reaches registered ok (r.config n))
    (howner : r.Fair .owner) (hreceive : r.Fair .receive) (hstop : (r.config n).mem.stop = true) :
    ∃ m ≥ n, (r.config m).mem.connMutex = none ∨ (r.config m).mem.connMutex = some .worker := by
  have hiff := fun m t => holdsConn_iff (hreach m) t
  cases hheld : (r.config n).mem.connMutex with
  | none => exact ⟨n, le_rfl, .inl hheld⟩
  | some t =>
    have hholds := (hiff n t).mpr hheld
    cases t with
    | owner =>
      obtain ⟨m, hm, hfree⟩ := Run.released respects_connMutex hiff howner OwnerPc.rank
        (fun a pc m pc' m' hin _ hstep => ownerStep_rank (OwnerPc.stopping_of_holdsConn hin).1
          (OwnerPc.stopping_of_holdsConn hin).2 hstep)
        (fun c hin => owner_enabled (OwnerPc.stopping_of_holdsConn hin).1
          (OwnerPc.stopping_of_holdsConn hin).2 (.inr hin) (.inl fun hpc => by
            rw [hpc] at hin
            exact absurd hin Bool.false_ne_true)) hheld
      exact ⟨m, hm, .inl hfree⟩
    | receive =>
      obtain ⟨m, hm, hfree⟩ := Run.released respects_connMutex hiff hreceive
        ReceivePc.rank (fun a pc m pc' m' hin hout hstep => receiveStep_rank hin hout hstep)
        (fun c hin => receive_enabled hin) hheld
      exact ⟨m, hm, .inl hfree⟩
    | worker => exact ⟨n, le_rfl, .inr hheld⟩
    | user k =>
      rw [user_idle (hreach n) hstop k] at hholds
      exact absurd hholds Bool.false_ne_true
    | system => exact absurd hholds Bool.false_ne_true

/-- Neither is the notification. -/
theorem notified_stays (hnotified : (c.pc .owner).notified = true)
    (h : (program enabled).move t a c = some c') : (c'.pc .owner).notified = true := by
  obtain ⟨pc, m, hstep, rfl⟩ := (program enabled).move_eq_some.mp h
  dsimp only
  by_cases ht : t = .owner
  · subst ht
    rw [Function.update_self]
    exact (ownerStep_keeps hstep).2.2.2 hnotified
  · rwa [Function.update_of_ne (Ne.symm ht)]

theorem started_stays (hstarted : c.mem.workerStarted = true)
    (h : (program enabled).move t a c = some c') : c'.mem.workerStarted = true := by
  obtain ⟨pc, m, hstep, rfl⟩ := (program enabled).move_eq_some.mp h
  by_cases ht : t = .owner
  · subst ht
    exact (ownerStep_keeps hstep).2.1.trans hstarted
  · have hpassive := step_passive ht hstep
    grind

/-- `run_worker` does not go on after it has returned. -/
theorem returned_stays (hreturned : c.pc .worker = .returned)
    (h : (program enabled).move t a c = some c') : c'.pc .worker = .returned := by
  obtain ⟨pc, m, hstep, rfl⟩ := (program enabled).move_eq_some.mp h
  dsimp only
  by_cases ht : t = .worker
  · subst ht
    rw [hreturned] at hstep
    exact absurd hstep nofun
  · rwa [Function.update_of_ne (Ne.symm ht)]

theorem workerStep_returned {pc : WorkerPc} {m m' : Memory}
    (h : workerStep a pc m = some (.returned, m')) : m'.workerReturned = true := by
  cases pc with
  | attempt =>
    obtain ⟨⟨r, m₁⟩, -, heq⟩ := Option.map_eq_some_iff.mp h
    cases r <;> exact absurd (Prod.mk.inj heq).1 nofun
  | _ =>
    unfold workerStep at h
    grind

theorem workerReturned_of_returned (h : (program enabled).Reaches registered ok c)
    (hreturned : c.pc .worker = .returned) : c.mem.workerReturned = true := by
  revert hreturned
  refine h.induction (I := fun c : Config => c.pc .worker = .returned → c.mem.workerReturned = true)
    (by simp [registered]) fun t a c pc m _ ih _ hstep => ?_
  dsimp only
  by_cases hworker : t = .worker
  · subst hworker
    rw [Function.update_self]
    rintro rfl
    exact workerStep_returned hstep
  · rw [Function.update_of_ne (Ne.symm hworker)]
    intro hpc
    by_cases howner : t = .owner
    · subst howner
      exact (ownerStep_keeps hstep).2.2.1.trans (ih hpc)
    · exact (step_passive howner hstep).2.2.2.1 (ih hpc)

/-- The destructor notifies. -/
theorem eventually_notified (hreach : ∀ n, (program enabled).Reaches registered ok (r.config n))
    (howner : r.Fair .owner) (hstop : (r.config n).mem.stop = true) :
    ∃ m ≥ n, ((r.config m).pc .owner).notified = true := by
  by_contra hcontra
  have hstays : ∀ m ≥ n, (r.config m).pc .owner = .notifyStop := by
    intro m hm
    have hstopping := (stop_eq (hreach m)).symm.trans (stop_from hstop hm)
    by_contra hpc
    refine hcontra ⟨m, hm, ?_⟩
    rwa [OwnerPc.notified_eq hpc]
  refine Run.not_forever (I := fun c => c.pc .owner = .notifyStop) OwnerPc.rank howner
    hstays (fun a c l m hin _ hstep => ?_) (fun m hm => ⟨m, le_rfl, ?_⟩)
  · rw [hin] at hstep ⊢
    exact ownerStep_rank (a := a) rfl rfl hstep
  · rw [Concurrent.Enabled, hstays m hm]
    exact ⟨.go, rfl⟩

/-- **The worker returns.** -/
theorem eventually_returned
    (hreach : ∀ n, (program enabled).Reaches registered NotifyHeard (r.config n))
    (howner : r.Fair .owner) (hreceive : r.Fair .receive) (hworker : r.Fair .worker)
    (hstop : (r.config n).mem.stop = true)
    (hstarted : (r.config n).mem.workerStarted = true) :
    ∃ m ≥ n, (r.config m).pc .worker = .returned := by
  by_contra hcontra
  obtain ⟨n', hn', hnotified⟩ := eventually_notified hreach howner hstop
  have hstops : ∀ m ≥ n, (r.config m).mem.stop = true := fun m hm => stop_from hstop hm
  have hstarts : ∀ m ≥ n, (r.config m).mem.workerStarted = true := fun m hm =>
    Run.stays (I := fun c : Config => c.mem.workerStarted = true)
      (fun _ _ _ _ => started_stays) hstarted hm
  have hnotifies : ∀ m ≥ n', ((r.config m).pc .owner).notified = true := fun m hm =>
    Run.stays (I := fun c : Config => (c.pc .owner).notified = true)
      (fun _ _ _ _ => notified_stays) hnotified hm
  refine Run.not_forever (I := fun c => c.mem.stop = true) WorkerPc.rank hworker
    (fun m hm => hstops m (le_trans hn' hm)) (fun a c l m hin _ hstep => workerStep_rank hin hstep)
    (fun m hm => ?_)
  obtain ⟨k, hk, hconn⟩ := conn_released hreach howner hreceive (hstops m (le_trans hn' hm))
  have hkn' : k ≥ n' := le_trans hm hk
  have hkn : k ≥ n := le_trans hn' hkn'
  refine ⟨k, hk, worker_enabled (hstarts k hkn) (fun hpc => hcontra ⟨k, hkn, hpc⟩) ?_ ?_
    (heard (hreach k) (hnotifies k hkn')).2⟩
  · exact hconn.imp_right (holdsConn_iff (hreach k) .worker).mpr
  · exact (cmd_free (hreach k) (hstops k hkn)).imp_right (holdsCmd_iff (hreach k) .worker).mpr

/-- **The destructor joins it.** -/
theorem eventually_joined (hreach : ∀ n, (program enabled).Reaches registered ok (r.config n))
    (howner : r.Fair .owner) (hreceive : r.Fair .receive)
    (hstop : (r.config n).mem.stop = true) (hreturned : (r.config n).pc .worker = .returned) :
    ∃ m ≥ n, ((r.config m).pc .owner).joined = true := by
  by_contra hcontra
  have hstops : ∀ m ≥ n, (r.config m).mem.stop = true := fun m hm => stop_from hstop hm
  have hreturns : ∀ m ≥ n, (r.config m).pc .worker = .returned := fun m hm =>
    Run.stays (I := fun c : Config => c.pc .worker = .returned)
      (fun _ _ _ _ => returned_stays) hreturned hm
  have hcloses : ∀ m ≥ n,
      ((r.config m).pc .owner).stopping = true ∧ ((r.config m).pc .owner).joined = false :=
    fun m hm => ⟨(stop_eq (hreach m)).symm.trans (hstops m hm),
      Bool.eq_false_iff.mpr fun hjoined => hcontra ⟨m, hm, hjoined⟩⟩
  refine Run.not_forever
    (I := fun c => (c.pc .owner).stopping = true ∧ (c.pc .owner).joined = false) OwnerPc.rank
    howner hcloses (fun a c l m hin _ hstep => ownerStep_rank hin.1 hin.2 hstep) (fun m hm => ?_)
  obtain ⟨k, hk, hconn⟩ := conn_released hreach howner hreceive (hstops m hm)
  have hkn : k ≥ n := le_trans hm hk
  refine ⟨k, hk, owner_enabled (hcloses k hkn).1 (hcloses k hkn).2 (.inl ?_)
    (.inr (workerReturned_of_returned (hreach k) (hreturns k hkn)))⟩
  rcases hconn with hfree | hheld
  · exact hfree
  · have hholds := (holdsConn_iff (hreach k) .worker).mpr hheld
    rw [hreturns k hkn] at hholds
    exact absurd hholds Bool.false_ne_true

end Fair

/-- **The destruction of a Device** when the notification of the destructor is heard: it
does not wait for a worker that sleeps without a deadline, and in every fair run, once
the stop is requested, a worker that was started returns and the destructor goes on. -/
theorem destruction_terminates (enabled : Bool) :
    (∀ c joinable, (program enabled).Reaches registered NotifyHeard c →
      c.pc .owner = .join joinable → c.pc .worker = .waitWake → c.mem.waiting = false) ∧
    ∀ r : (program enabled).Run, r.config 0 = registered → r.Meets NotifyHeard →
      r.Fair .owner → r.Fair .receive → r.Fair .worker →
      ∀ n, (r.config n).mem.stop = true → (r.config n).mem.workerStarted = true →
        ∃ m ≥ n, (r.config m).mem.workerReturned = true ∧
          ((r.config m).pc .owner).joined = true := by
  constructor
  · intro c joinable hreach howner hworker
    exact (heard hreach (by rw [howner]; rfl)).2 hworker
  · intro r hstart hmeets howner hreceive hworker n hstop hstarted
    have hfirst : (program enabled).Reaches registered NotifyHeard (r.config 0) := by
      rw [hstart]
      exact .start
    have hreach := Run.reaches hfirst hmeets
    obtain ⟨n', hn', hreturned⟩ :=
      eventually_returned hreach howner hreceive hworker hstop hstarted
    have hstop' := Run.stays (I := fun c : Config => c.mem.stop = true)
      (fun _ _ _ _ => stop_stays) hstop hn'
    obtain ⟨m, hm, hjoined⟩ := eventually_joined hreach howner hreceive hstop' hreturned
    refine ⟨m, le_trans hn' hm, workerReturned_of_returned (hreach m) ?_, hjoined⟩
    exact Run.stays (I := fun c : Config => c.pc .worker = .returned)
      (fun _ _ _ _ => returned_stays) hreturned hm

/-! ## The lost wakeup -/

/-- A push timeout, and the worker up to the point where it has reconnected and found
nothing to do, but does not sleep yet. -/
def reconnected : List (Thread × Move) :=
  [(.receive, .refresh), (.owner, .go)] ++ timeoutTick ++ List.replicate 26 (.worker, .go)

/-- A tick that finds the Device connected. -/
def quietTick : List (Thread × Move) :=
  (.receive, .tick) :: List.replicate 5 (.receive, .go)

/-- The destructor requests the stop and notifies; then the worker goes to sleep, and the
destructor goes on to the join.  A tick delivers the event of the reconnect. -/
def lostWakeup : List (Thread × Move) :=
  reconnected ++ [(.owner, .go), (.owner, .go), (.worker, .go)] ++
    List.replicate 3 (.owner, .go) ++ quietTick ++ [(.receive, .go)]

/-- What the receive thread does as long as the LiDAR pushes. -/
def pushing : List (Thread × Move) :=
  [(.receive, .push false), (.receive, .go)] ++ quietTick

/-- The worker sleeps, and the destructor waits for it. -/
def asleep : Config where
  pc
    | .owner => .join true
    | .receive => .idle
    | .worker => .waitWake
    | .user _ => .idle
    | .system => ()
  mem :=
    { stop := true, waiting := true, workerStarted := true, observed := true, inSnapshot := true
      delivered := [.kDisconnected, .kReconnected], declared := 1, phase := .taken
      bornIn := some .inUse }

theorem exec_lostWakeup : (program true).exec lostWakeup registered = some asleep :=
  Concurrent.exec_eq_some (by decide) (by rintro ⟨⟩ <;> rfl) rfl

theorem exec_pushing : (program true).exec pushing asleep = some asleep :=
  Concurrent.exec_eq_some (by decide) (by rintro ⟨⟩ <;> rfl) rfl

/-- The Device is connected, and its destructor waits for a worker that was started and
now sleeps without a deadline. -/
def JoinsSleeper (c : Config) : Prop :=
  c.mem.stop = true ∧ c.mem.connected = true ∧ c.mem.workerStarted = true ∧
    c.mem.workerReturned = false ∧ c.pc .owner = .join true ∧ c.pc .worker = .waitWake ∧
    c.mem.waiting = true

instance (c : Config) : Decidable (JoinsSleeper c) :=
  inferInstanceAs (Decidable (_ ∧ _))

/-- Then only the receive thread can go on. -/
theorem JoinsSleeper.not_enabled {enabled : Bool} {ok : Thread → Move → Config → Prop} {c : Config}
    (hreach : (program enabled).Reaches registered ok c) (h : JoinsSleeper c) {t : Thread}
    (hreceive : t ≠ .receive) (hsystem : t ≠ .system) : ¬(program enabled).Enabled t c := by
  obtain ⟨hstop, -, -, hreturned, howner, hworker, hwaiting⟩ := h
  rintro ⟨a, henabled⟩
  cases t with
  | owner => simp [program, howner, ownerStep, hreturned] at henabled
  | worker => simp [program, hworker, workerStep, hwaiting] at henabled
  | user k =>
    have hphase : c.mem.phase = .taken := by
      rw [(ownership hreach).phase, howner]
      rfl
    simp [program, user_idle hreach hstop k, userStep, hphase] at henabled
  | receive => exact hreceive rfl
  | system => exact hsystem rfl

/-- **The lost wakeup.**  The LiDAR keeps pushing, and every thread that can go on does,
but the destructor waits forever. -/
theorem destruction_hangs :
    ∃ r : (program true).Run, r.config 0 = registered ∧ (∀ t, t ≠ .system → r.Fair t) ∧
      ∃ n, ∀ m ≥ n, JoinsSleeper (r.config m) := by
  have hcycle_ne : pushing ≠ [] := nofun
  let r := Run.lasso exec_lostWakeup exec_pushing hcycle_ne
  have hsleeps : ∀ m ≥ lostWakeup.length, JoinsSleeper (r.config m) := fun m hm =>
    of_decide_eq_true (Run.lasso_always exec_lostWakeup exec_pushing hcycle_ne
      (p := fun c => decide (JoinsSleeper c)) (by decide) hm)
  have hfirst : r.config 0 = registered := Run.lasso_zero _ _ _
  have hstart : (program true).Reaches registered anyMove (r.config 0) := by
    rw [hfirst]
    exact .start
  have hreach := Run.reaches hstart fun _ _ _ _ => trivial
  refine ⟨r, hfirst, fun t hsystem => ?_, lostWakeup.length, hsleeps⟩
  by_cases hreceive : t = .receive
  · subst hreceive
    exact Run.lasso_fair _ _ _ (a := .tick) (by decide)
  · exact .of_blocked fun m hm => (hsleeps m hm).not_enabled (hreach m) hreceive hsystem

/-- The Device is gone. -/
def closed : Config where
  pc
    | .owner => .destroyed true
    | .receive => .idle
    | .worker => .returned
    | .user _ => .idle
    | .system => ()
  mem :=
    { stop := true, connected := false, workerStarted := true, workerReturned := true
      registered := false, observed := true, delivered := [.kDisconnected], declared := 1
      phase := .taken, bornIn := some .inUse }

theorem exec_timeoutInUse : (program true).exec timeoutInUse registered = some closed :=
  Concurrent.exec_eq_some (by decide) (by rintro ⟨⟩ <;> rfl) rfl

theorem exec_refresh : (program true).exec [(.receive, .refresh)] closed = some closed :=
  Concurrent.exec_eq_some (by decide) (by rintro ⟨⟩ <;> rfl) rfl

/-- The same destructor with a worker that sleeps already. -/
def heardWakeup : List (Thread × Move) :=
  reconnected ++ [(.worker, .go)] ++ List.replicate 5 (.owner, .go)

theorem destruction_terminates_timeoutInUse :
    (∃ c, (program true).Reaches registered NotifyHeard c ∧ c.pc .owner = .join true ∧
      c.pc .worker = .waitWake ∧ c.mem.waiting = false) ∧
    ∃ r : (program true).Run, r.config 0 = registered ∧
      ∃ m, (r.config m).mem.workerReturned = true ∧ ((r.config m).pc .owner).joined = true := by
  have hallowed : (program true).Allowed NotifyHeard heardWakeup registered := by decide
  have hrun : ((program true).exec heardWakeup registered).any (fun c =>
      decide (c.pc .owner = .join true ∧ c.pc .worker = .waitWake)) = true := by decide
  obtain ⟨c, hreach, hc⟩ := Concurrent.Reaches.of_exec hallowed hrun
  obtain ⟨hjoin, hwake⟩ := of_decide_eq_true hc
  refine ⟨⟨c, hreach, hjoin, hwake, (destruction_terminates true).1 c true hreach hjoin hwake⟩, ?_⟩
  have hcycle_ne : [(Thread.receive, Move.refresh)] ≠ [] := nofun
  let r := Run.lasso exec_timeoutInUse exec_refresh hcycle_ne
  have hclosed : ∀ m ≥ timeoutInUse.length, (r.config m).pc .owner = .destroyed true ∧
      (r.config m).pc .worker = .returned ∧ (r.config m).mem.stop = true ∧
      (r.config m).mem.workerStarted = true := fun m hm =>
    of_decide_eq_true (Run.lasso_always exec_timeoutInUse exec_refresh hcycle_ne
      (p := fun c => decide (c.pc .owner = .destroyed true ∧ c.pc .worker = .returned ∧
        c.mem.stop = true ∧ c.mem.workerStarted = true)) (by decide) hm)
  have hfirst : r.config 0 = registered := Run.lasso_zero _ _ _
  have howner : r.Fair .owner := by
    refine .of_blocked (n := timeoutInUse.length) fun m hm => ?_
    rintro ⟨a, henabled⟩
    simp [program, (hclosed m hm).1, ownerStep] at henabled
  have hworker : r.Fair .worker := by
    refine .of_blocked (n := timeoutInUse.length) fun m hm => ?_
    rintro ⟨a, henabled⟩
    simp [program, (hclosed m hm).2.1, workerStep] at henabled
  have hmeets : r.Meets NotifyHeard := Run.lasso_meets _ _ _ (by decide) (by decide)
  have hreceive : r.Fair .receive := Run.lasso_fair _ _ _ (List.mem_singleton.mpr rfl)
  obtain ⟨m, -, hjoined⟩ := (destruction_terminates true).2 r hfirst hmeets howner hreceive
    hworker timeoutInUse.length (hclosed _ le_rfl).2.2.1 (hclosed _ le_rfl).2.2.2
  exact ⟨r, hfirst, m, hjoined⟩

end LivoxMid360.Device
