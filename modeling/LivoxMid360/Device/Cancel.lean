import LivoxMid360.Lib.Interleaving

/-!
# `Device::cancel()`

`Device::cancel()` raises two flags under `conn_mutex`: the one of the Session and
`log_cancel`, for the commands that go through the log socket.  A command consumes the
flag it waits on by an exchange, without `conn_mutex`, and then clears both in
`settle_cancel`; and a reconnect attempt replaces the Session together with its flag.
This file has its own, smaller machine for these steps: any number of threads, each of
which makes any number of calls of `cancel()`, of commands and of attempts.  Neither it nor
`Connection` simulates the other: there the move says whether a request is cancelled and the
memory whether the Device is connected, and here the flags say the one and the move the
other.

* A command makes requests in any order, on the Session and on the log socket.  A request
  looks at its flag any number of times; the first look that finds it raised makes the
  command fail with kCancelled.
* An attempt connects a new Session, whose own flag nobody can raise, puts it in the place
  of the old one and then makes requests like a command.
* The memory counts the calls of `cancel()` that have raised a flag, and the calls that
  have returned kCancelled.

`Balanced` is the invariant, over the place of the holder of `cmd_mutex`: it counts a
raised flag as one cancel that is still to be consumed.  `cancel_aborts_one` is the
result: when no thread is inside `cancel()` or between the consumption of a flag and the
end of `settle_cancel`, the flags agree; at most as many calls are cancelled as calls of
`cancel()` were made; and replacing the Session changes neither.
-/

namespace LivoxMid360.Device.Cancel

open Concurrent (anyMove MutexStep actor)

/-! ## The machine -/

/-- What the threads share. -/
structure Memory where
  connMutex : Option ℕ := none
  cmdMutex : Option ℕ := none
  /-- The cancel flag of `Impl::session`. -/
  session : Bool := false
  logCancel : Bool := false
  /-- The calls of `cancel()` that have raised a flag. -/
  cancels : ℕ := 0
  /-- The calls that have returned kCancelled. -/
  cancelled : ℕ := 0

/-- Where a thread is. -/
inductive Pc
  | idle
  | cancelLock
  | cancelSession
  | cancelLog
  | cancelUnlock
  | commandLock
  | attemptLock
  | connect
  | swapLock
  | swapLoad
  | swapMove (pending : Bool)
  | swapStore (pending : Bool)
  | swapUnlock
  | requests
  | settleLock
  | settleSession
  | settleLog
  | settleUnlock
  | unlock (cancelled : Bool)
  deriving DecidableEq

inductive Move
  | go
  | cancel
  | command
  | reconnect
  | checkSession
  | checkLog
  | finish
  deriving DecidableEq

namespace Memory

/-- Take `conn_mutex`. -/
@[grind =] def lockConn (t : ℕ) (m : Memory) : Option Memory :=
  Concurrent.lock Memory.connMutex (fun m holder => { m with connMutex := holder }) t m

/-- Take `cmd_mutex`. -/
@[grind =] def lockCmd (t : ℕ) (m : Memory) : Option Memory :=
  Concurrent.lock Memory.cmdMutex (fun m holder => { m with cmdMutex := holder }) t m

end Memory

/-- One step of a thread. -/
def step (t : ℕ) (a : Move) : Pc → Memory → Option (Pc × Memory)
  | .idle, m =>
    match a with
    | .cancel => some (.cancelLock, m)
    | .command => some (.commandLock, m)
    | .reconnect => some (.attemptLock, m)
    | _ => none
  -- `Device::cancel`
  | .cancelLock, m => (m.lockConn t).map (.cancelSession, ·)
  | .cancelSession, m => some (.cancelLog, { m with session := true, cancels := m.cancels + 1 })
  | .cancelLog, m => some (.cancelUnlock, { m with logCancel := true })
  | .cancelUnlock, m => some (.idle, { m with connMutex := none })
  -- a command
  | .commandLock, m => (m.lockCmd t).map (.requests, ·)
  | .requests, m =>
    match a with
    | .checkSession =>
      some (if m.session then .settleLock else .requests, { m with session := false })
    | .checkLog =>
      some (if m.logCancel then .settleLock else .requests, { m with logCancel := false })
    | .finish => some (.unlock false, m)
    | _ => none
  -- `settle_cancel`
  | .settleLock, m => (m.lockConn t).map (.settleSession, ·)
  | .settleSession, m => some (.settleLog, { m with session := false })
  | .settleLog, m => some (.settleUnlock, { m with logCancel := false })
  | .settleUnlock, m => some (.unlock true, { m with connMutex := none })
  | .unlock cancelled, m =>
    some (.idle, { m with cmdMutex := none, cancelled := m.cancelled + cancelled.toNat })
  -- `attempt`
  | .attemptLock, m => (m.lockCmd t).map (.connect, ·)
  | .connect, m => some (if a = .finish then .unlock false else .swapLock, m)
  | .swapLock, m => (m.lockConn t).map (.swapLoad, ·)
  | .swapLoad, m => some (.swapMove m.session, m)
  | .swapMove pending, m => some (.swapStore pending, { m with session := false })
  | .swapStore pending, m => some (.swapUnlock, { m with session := pending })
  | .swapUnlock, m => some (.requests, { m with connMutex := none })

/-- All threads. -/
def program : Concurrent ℕ (fun _ => Pc) Memory Move where
  step := step

abbrev Config := Concurrent.Config (fun _ : ℕ => Pc) Memory

/-- `Device::open` has returned. -/
def opened : Config where
  pc _ := .idle
  mem := {}

/-! ## The mutexes -/

/-- Where a thread has `conn_mutex`. -/
@[grind] def Pc.holdsConn : Pc → Bool
  | .cancelSession | .cancelLog | .cancelUnlock => true
  | .settleSession | .settleLog | .settleUnlock => true
  | .swapLoad | .swapMove _ | .swapStore _ | .swapUnlock => true
  | _ => false

/-- Where a thread has `cmd_mutex`. -/
@[grind] def Pc.holdsCmd : Pc → Bool
  | .idle | .cancelLock | .cancelSession | .cancelLog | .cancelUnlock => false
  | .commandLock | .attemptLock => false
  | _ => true

section Mutexes

variable {t : ℕ} {a : Move} {pc pc' : Pc} {m m' : Memory}

theorem step_conn (h : step t a pc m = some (pc', m')) :
    MutexStep t m.connMutex m'.connMutex (pc.holdsConn = true) (pc'.holdsConn = true) := by
  unfold step at h
  unfold MutexStep
  split at h <;> grind

theorem step_cmd (h : step t a pc m = some (pc', m')) :
    MutexStep t m.cmdMutex m'.cmdMutex (pc.holdsCmd = true) (pc'.holdsCmd = true) := by
  unfold step at h
  unfold MutexStep
  split at h <;> grind

theorem respects_connMutex :
    program.RespectsMutex Memory.connMutex fun _ pc => pc.holdsConn = true :=
  fun _ _ _ _ _ _ h => step_conn h

theorem respects_cmdMutex :
    program.RespectsMutex Memory.cmdMutex fun _ pc => pc.holdsCmd = true :=
  fun _ _ _ _ _ _ h => step_cmd h

variable {ok : ℕ → Move → Config → Prop} {c : Config}

theorem holdsConn_iff (h : program.Reaches opened ok c) (t : ℕ) :
    (c.pc t).holdsConn = true ↔ c.mem.connMutex = some t :=
  h.holds_iff respects_connMutex rfl (fun _ => by simp [opened, Pc.holdsConn]) t

theorem holdsCmd_iff (h : program.Reaches opened ok c) (t : ℕ) :
    (c.pc t).holdsCmd = true ↔ c.mem.cmdMutex = some t :=
  h.holds_iff respects_cmdMutex rfl (fun _ => by simp [opened, Pc.holdsCmd]) t

end Mutexes

/-! ## The flags -/

/-- A thread is inside `cancel()`. -/
@[grind] def Pc.inCancel : Pc → Bool
  | .cancelLock | .cancelSession | .cancelLog | .cancelUnlock => true
  | _ => false

/-- An attempt is replacing the Session. -/
@[grind] def Pc.swapping : Pc → Bool
  | .swapLoad | .swapMove _ | .swapStore _ | .swapUnlock => true
  | _ => false

/-- A command has consumed a flag and not finished `settle_cancel`. -/
@[grind] def Pc.unsettled : Pc → Bool
  | .settleLock | .settleSession | .settleLog | .settleUnlock => true
  | _ => false

/-- A command is going to return kCancelled. -/
@[grind] def Pc.owed : Pc → ℕ
  | .settleLock | .settleSession | .settleLog | .settleUnlock | .unlock true => 1
  | _ => 0

/-- The cancel flag of the Session, when the holder of `cmd_mutex` is here: the flag that
is carried over while the Session is replaced. -/
@[grind] def Pc.live (session : Bool) : Pc → Bool
  | .swapMove pending | .swapStore pending => pending
  | _ => session

/-- Where the holder of `cmd_mutex` is. -/
def cmdPc (c : Config) : Pc :=
  actor Memory.cmdMutex .idle c

/-- The cancel flag of the live Session.  While `attempt` puts a new Session into its
place, with both mutexes held, this is the flag that it carries over; a look at a flag of
the Session needs one of the two. -/
def liveCancel (c : Config) : Bool :=
  (cmdPc c).live c.mem.session

/-- The flags and the counts, with the holder of `cmd_mutex` at `x`; `raising` says that a
thread has raised the flag of the Session and not `log_cancel` yet.  A raised flag is one
cancel that is still to be consumed, unless a command that has consumed one is about to
clear it. -/
structure Balanced (x : Pc) (raising : Bool) (m : Memory) : Prop where
  agree : x.unsettled = false → raising = false → x.live m.session = m.logCancel
  raised : x.unsettled = false → raising = true → x.live m.session = true
  cleared : x = .settleLog → m.session = false
  settled : x = .settleUnlock → m.session = false ∧ m.logCancel = false
  counts : m.cancelled + x.owed +
    (if x.unsettled = false ∧ (x.live m.session = true ∨ m.logCancel = true) then 1 else 0) ≤
      m.cancels

/-- The flag is carried over with `conn_mutex` held. -/
theorem Pc.live_of_holdsConn {x : Pc} (h : x.holdsConn = false) (session : Bool) :
    x.live session = session := by
  cases x with
  | swapMove | swapStore => exact absurd h (by simp [Pc.holdsConn])
  | _ => rfl

namespace Balanced

variable {x x' : Pc} {raising : Bool} {m m' : Memory}

/-- The first half of `cancel()`. -/
theorem raiseSession (h : Balanced x false m) (hx : x.holdsConn = false) :
    Balanced x true { m with session := true, cancels := m.cancels + 1 } where
  agree := nofun
  raised _ _ := Pc.live_of_holdsConn hx true
  cleared hpc := by rw [hpc] at hx; exact absurd hx (by decide)
  settled hpc := by rw [hpc] at hx; exact absurd hx (by decide)
  counts := by
    have hcounts := h.counts
    dsimp only
    split_ifs at hcounts ⊢ <;> omega

/-- The second half of `cancel()`. -/
theorem raiseLog (h : Balanced x true m) (hx : x.holdsConn = false) :
    Balanced x false { m with logCancel := true } where
  agree hpc _ := h.raised hpc rfl
  raised := nofun
  cleared := h.cleared
  settled hpc := by rw [hpc] at hx; exact absurd hx (by decide)
  counts := by
    have hcounts := h.counts
    dsimp only
    cases hpc : x.unsettled with
    | false =>
      rw [if_pos ⟨hpc, .inl (h.raised hpc rfl)⟩] at hcounts
      rw [if_pos ⟨rfl, .inr rfl⟩]
      exact hcounts
    | true =>
      rw [hpc, if_neg (by simp)] at hcounts
      rw [if_neg (by simp)]
      exact hcounts

/-- The flags and the counts stay. -/
theorem frame (h : Balanced x raising m) (hsession : m'.session = m.session)
    (hlog : m'.logCancel = m.logCancel) (hcancelled : m'.cancelled = m.cancelled)
    (hcancels : m'.cancels = m.cancels) : Balanced x raising m' := by
  obtain ⟨agree, raised, cleared, settled, counts⟩ := h
  rw [← hsession, ← hlog] at *
  rw [← hcancelled, ← hcancels] at counts
  exact ⟨agree, raised, cleared, settled, counts⟩

/-- The steps of the holder of `cmd_mutex` that leave the flags as they are. -/
theorem pass (h : Balanced x raising m) (hx : x.unsettled = false) (hx' : x'.unsettled = false)
    (hlive : x'.live m'.session = x.live m.session) (hlog : m'.logCancel = m.logCancel)
    (hcancelled : m'.cancelled + x'.owed = m.cancelled + x.owed)
    (hcancels : m'.cancels = m.cancels) : Balanced x' raising m' where
  agree _ hraising := by rw [hlive, hlog, h.agree hx hraising]
  raised _ hraising := by rw [hlive, h.raised hx hraising]
  cleared hpc := by rw [hpc] at hx'; exact absurd hx' (by decide)
  settled hpc := by rw [hpc] at hx'; exact absurd hx' (by decide)
  counts := by
    have hcounts := h.counts
    rw [hx, ← hlive, ← hlog, ← hcancelled, ← hcancels] at hcounts
    rwa [hx']

/-- A request finds its flag raised. -/
theorem consume (h : Balanced .requests raising m)
    (hflag : m.session = true ∨ m.logCancel = true) (hcancelled : m'.cancelled = m.cancelled)
    (hcancels : m'.cancels = m.cancels) : Balanced .settleLock raising m' where
  agree := nofun
  raised := nofun
  cleared := nofun
  settled := nofun
  counts := by
    have hcounts := h.counts
    rw [if_pos ⟨rfl, hflag⟩] at hcounts
    rw [hcancelled, hcancels]
    exact hcounts

/-- `settle_cancel` up to its end: whatever it does to the flags, the command is still to
return. -/
theorem settling (h : Balanced x raising m) (hx : x.unsettled = true) (hx' : x'.unsettled = true)
    (hcleared : x' = .settleLog → m'.session = false)
    (hsettled : x' = .settleUnlock → m'.session = false ∧ m'.logCancel = false)
    (hcancelled : m'.cancelled = m.cancelled) (hcancels : m'.cancels = m.cancels) :
    Balanced x' raising m' where
  agree hpc := absurd (hpc.symm.trans hx') Bool.false_ne_true
  raised hpc := absurd (hpc.symm.trans hx') Bool.false_ne_true
  cleared := hcleared
  settled := hsettled
  counts := by
    have hcounts := h.counts
    have howed : ∀ x : Pc, x.unsettled = true → x.owed = 1 := by
      intro x hx
      cases x with
      | settleLock | settleSession | settleLog | settleUnlock => rfl
      | _ => exact absurd hx Bool.false_ne_true
    rw [howed x hx, hx, if_neg (by simp)] at hcounts
    rw [howed x' hx', hx', hcancelled, hcancels, if_neg (by simp)]
    exact hcounts

/-- The end of `settle_cancel`. -/
theorem settle (h : Balanced .settleUnlock false m) (hsession : m'.session = m.session)
    (hlog : m'.logCancel = m.logCancel) (hcancelled : m'.cancelled = m.cancelled)
    (hcancels : m'.cancels = m.cancels) : Balanced (.unlock true) false m' where
  agree _ _ := by
    obtain ⟨hs, hl⟩ := h.settled rfl
    exact hsession.trans (hs.trans (hl.symm.trans hlog.symm))
  raised := nofun
  cleared := nofun
  settled := nofun
  counts := by
    obtain ⟨hs, hl⟩ := h.settled rfl
    have hcounts := h.counts
    rw [if_neg (by simp [Pc.unsettled])] at hcounts
    rw [hcancelled, hcancels, hsession, hlog, hs, hl, if_neg (by simp [Pc.live])]
    exact hcounts

/-- **The invariant.**  `hcmd` and `htaken` say where the holder of `cmd_mutex` is,
`hraising` and `hfree` who can be raising, and `hconn` that another holder of
`conn_mutex` keeps the holder of `cmd_mutex` out. -/
theorem step {t : ℕ} {a : Move} {pc pc' : Pc} (h : Balanced x raising m)
    (hstep : Cancel.step t a pc m = some (pc', m')) (hcmd : pc.holdsCmd = true → x = pc)
    (htaken : pc.holdsCmd = false → pc'.holdsCmd = true → x = .idle)
    (hraising : pc.holdsConn = true → raising = decide (pc = .cancelLog))
    (hfree : pc.holdsConn = false → pc'.holdsConn = true → raising = false)
    (hconn : pc.holdsConn = true → pc.holdsCmd = false → x.holdsConn = false) :
    Balanced (if pc'.holdsCmd then pc' else if pc.holdsCmd then .idle else x)
      (if pc'.holdsConn then decide (pc' = .cancelLog)
        else if pc.holdsConn then false else raising) m' := by
  cases pc with
  | idle =>
    unfold Cancel.step at hstep
    dsimp only at hstep
    split at hstep
    · cases hstep
      exact h
    · cases hstep
      exact h
    · cases hstep
      exact h
    · exact absurd hstep nofun
  | cancelLock =>
    obtain ⟨-, rfl, rfl⟩ := Concurrent.map_lock_eq_some.mp hstep
    obtain rfl := hfree rfl rfl
    exact h.frame rfl rfl rfl rfl
  -- the two flags are raised one after the other; `raising` tells the states between them
  | cancelSession =>
    cases hstep
    obtain rfl := hraising rfl
    exact h.raiseSession (hconn rfl rfl)
  | cancelLog =>
    cases hstep
    obtain rfl := hraising rfl
    exact h.raiseLog (hconn rfl rfl)
  | cancelUnlock =>
    cases hstep
    obtain rfl := hraising rfl
    exact h.frame rfl rfl rfl rfl
  | commandLock | attemptLock =>
    obtain ⟨-, rfl, rfl⟩ := Concurrent.map_lock_eq_some.mp hstep
    obtain rfl := htaken rfl rfl
    exact h.pass rfl rfl rfl rfl rfl rfl
  | connect =>
    obtain ⟨hpc, rfl⟩ := Prod.mk.inj (Option.some.inj hstep)
    obtain rfl := hcmd rfl
    split_ifs at hpc <;> obtain rfl := hpc <;> exact h.pass rfl rfl rfl rfl rfl rfl
  | swapLock =>
    obtain ⟨-, rfl, rfl⟩ := Concurrent.map_lock_eq_some.mp hstep
    obtain rfl := hcmd rfl
    obtain rfl := hfree rfl rfl
    exact h.pass rfl rfl rfl rfl rfl rfl
  | settleLock =>
    obtain ⟨-, rfl, rfl⟩ := Concurrent.map_lock_eq_some.mp hstep
    obtain rfl := hcmd rfl
    obtain rfl := hfree rfl rfl
    exact h.settling rfl rfl nofun nofun rfl rfl
  | swapLoad | swapMove | swapStore | swapUnlock =>
    cases hstep
    obtain rfl := hcmd rfl
    obtain rfl := hraising rfl
    exact h.pass rfl rfl rfl rfl rfl rfl
  -- a request that finds its flag raised is the one this cancel aborts
  | requests =>
    obtain rfl := hcmd rfl
    unfold Cancel.step at hstep
    dsimp only at hstep
    split at hstep
    · obtain ⟨hpc, rfl⟩ := Prod.mk.inj (Option.some.inj hstep)
      split_ifs at hpc with hflag
      · obtain rfl := hpc
        exact h.consume (.inl hflag) rfl rfl
      · obtain rfl := hpc
        exact h.pass rfl rfl (Bool.eq_false_iff.mpr hflag).symm rfl rfl rfl
    · obtain ⟨hpc, rfl⟩ := Prod.mk.inj (Option.some.inj hstep)
      split_ifs at hpc with hflag
      · obtain rfl := hpc
        exact h.consume (.inr hflag) rfl rfl
      · obtain rfl := hpc
        exact h.pass rfl rfl rfl (Bool.eq_false_iff.mpr hflag).symm rfl rfl
    · cases hstep
      exact h.pass rfl rfl rfl rfl rfl rfl
    · exact absurd hstep nofun
  -- `settle_cancel` lowers both, also the one that no request has seen
  | settleSession =>
    cases hstep
    obtain rfl := hcmd rfl
    obtain rfl := hraising rfl
    exact h.settling rfl rfl (fun _ => rfl) nofun rfl rfl
  | settleLog =>
    cases hstep
    obtain rfl := hcmd rfl
    obtain rfl := hraising rfl
    exact h.settling rfl rfl nofun (fun _ => ⟨h.cleared rfl, rfl⟩) rfl rfl
  | settleUnlock =>
    cases hstep
    obtain rfl := hcmd rfl
    obtain rfl := hraising rfl
    exact h.settle rfl rfl rfl rfl
  | unlock cancelled =>
    cases hstep
    obtain rfl := hcmd rfl
    cases cancelled <;> exact h.pass rfl rfl rfl rfl rfl rfl

end Balanced

/-! ## Every run -/

/-- A thread has raised the flag of the Session and not `log_cancel` yet. -/
def raising (c : Config) : Bool :=
  actor Memory.connMutex .idle c = .cancelLog

section Runs

variable {ok : ℕ → Move → Config → Prop} {c : Config} {t : ℕ} {a : Move} {pc : Pc} {m : Memory}

variable (h : program.Reaches opened ok c)

include h

theorem cmdPc_step (hstep : step t a (c.pc t) c.mem = some (pc, m)) :
    cmdPc ⟨Function.update c.pc t pc, m⟩ =
      if pc.holdsCmd then pc else if (c.pc t).holdsCmd then .idle else cmdPc c :=
  Concurrent.actor_update (holdsCmd_iff h) (step_cmd hstep)

theorem raising_step (hstep : step t a (c.pc t) c.mem = some (pc, m)) :
    raising ⟨Function.update c.pc t pc, m⟩ =
      if pc.holdsConn then decide (pc = .cancelLog)
      else if (c.pc t).holdsConn then false else raising c := by
  unfold raising
  rw [Concurrent.actor_update (holdsConn_iff h) (step_conn hstep)]
  split_ifs <;> rfl

/-- The holder of `conn_mutex` is the one that may be raising. -/
theorem raising_of_holdsConn (hpc : (c.pc t).holdsConn = true) :
    raising c = decide (c.pc t = .cancelLog) := by
  unfold raising
  rw [Concurrent.actor_of_holds (holdsConn_iff h) hpc]

/-- When another thread has `conn_mutex`, the holder of `cmd_mutex` does not. -/
theorem cmdPc_holdsConn (hpc : (c.pc t).holdsConn = true) (hout : (c.pc t).holdsCmd = false) :
    (cmdPc c).holdsConn = false := by
  unfold cmdPc actor
  cases hheld : c.mem.cmdMutex with
  | none => rfl
  | some u =>
    refine Bool.eq_false_iff.mpr fun hu => ?_
    obtain rfl := Concurrent.holds_unique (holdsConn_iff h) hu hpc
    exact absurd (hout.symm.trans ((holdsCmd_iff h u).mpr hheld)) Bool.false_ne_true

theorem balanced : Balanced (cmdPc c) (raising c) c.mem := by
  refine h.induction (I := fun c => Balanced (cmdPc c) (raising c) c.mem) ?_
    fun t a c pc m hreach ih _ hstep => ?_
  · constructor <;> simp [cmdPc, raising, actor, opened, Pc.live, Pc.unsettled, Pc.owed]
  · dsimp only
    rw [cmdPc_step hreach hstep, raising_step hreach hstep]
    refine ih.step hstep (Concurrent.actor_of_holds (holdsCmd_iff hreach))
      (Concurrent.actor_of_takes (step_cmd hstep)) (raising_of_holdsConn hreach)
      (fun hout hin => ?_) (cmdPc_holdsConn hreach)
    unfold raising
    rw [Concurrent.actor_of_takes (step_conn hstep) hout hin]
    rfl

/-- Replacing the Session keeps the flags. -/
theorem swap_keeps (ht : (c.pc t).swapping = true)
    (hstep : step t a (c.pc t) c.mem = some (pc, m)) :
    liveCancel ⟨Function.update c.pc t pc, m⟩ = liveCancel c ∧
      m.logCancel = c.mem.logCancel ∧ m.cancelled = c.mem.cancelled := by
  have hcmd := cmdPc_step h hstep
  have hbefore : (c.pc t).holdsCmd = true → cmdPc c = c.pc t :=
    Concurrent.actor_of_holds (holdsCmd_iff h)
  unfold liveCancel
  rw [hcmd]
  generalize c.pc t = before at *
  cases before with
  | swapLoad | swapMove | swapStore | swapUnlock =>
    cases hstep
    rw [hbefore rfl]
    exact ⟨rfl, rfl, rfl⟩
  | _ => exact absurd ht Bool.false_ne_true

end Runs

/-- **One `cancel()` aborts at most one call.**  In every state of every run: when no
thread is inside `cancel()` and no command between the consumption of a flag and the end
of `settle_cancel`, the flag of the Session and `log_cancel` agree; at most as many calls
have returned kCancelled as calls of `cancel()` were made; and replacing the Session
neither loses a pending cancel nor doubles it. -/
theorem cancel_aborts_one {c : Config} (h : program.Reaches opened anyMove c) :
    ((∀ t, (c.pc t).inCancel = false) → (∀ t, (c.pc t).unsettled = false) →
      liveCancel c = c.mem.logCancel) ∧
    c.mem.cancelled ≤ c.mem.cancels ∧
    ∀ t a c', (c.pc t).swapping = true → program.move t a c = some c' →
      liveCancel c' = liveCancel c ∧ c'.mem.logCancel = c.mem.logCancel ∧
        c'.mem.cancelled = c.mem.cancelled := by
  have hbalanced := balanced h
  refine ⟨fun hcancel hsettled => ?_, ?_, fun t a c' ht hmove => ?_⟩
  · refine hbalanced.agree ?_ ?_
    · unfold cmdPc actor
      cases c.mem.cmdMutex with
      | none => rfl
      | some t => exact hsettled t
    · unfold raising actor
      refine decide_eq_false fun hpc => ?_
      cases hheld : c.mem.connMutex with
      | none =>
        rw [hheld] at hpc
        exact absurd hpc nofun
      | some t =>
        rw [hheld] at hpc
        have hin := hcancel t
        rw [show c.pc t = .cancelLog from hpc] at hin
        exact absurd hin (by decide)
  · exact Nat.le_trans (Nat.le_add_right _ _)
      (Nat.le_trans (Nat.le_add_right _ _) hbalanced.counts)
  · obtain ⟨pc, m, hstep, rfl⟩ := program.move_eq_some.mp hmove
    exact swap_keeps h ht hstep

/-- A command that is cancelled by another thread. -/
def abortedCommand : List (ℕ × Move) :=
  [(0, .command), (0, .go), (1, .cancel), (1, .go), (1, .go), (0, .checkSession), (1, .go),
    (1, .go)] ++ List.replicate 5 (0, .go)

/-- After it. -/
def aborted : Config where
  pc _ := .idle
  mem := { cancels := 1, cancelled := 1 }

theorem exec_abortedCommand : program.exec abortedCommand opened = some aborted :=
  Concurrent.exec_eq_some (by decide) (by rintro (_ | _ | t) <;> rfl) rfl

theorem cancel_aborts_one_abortedCommand :
    program.Reaches opened anyMove aborted ∧ liveCancel aborted = aborted.mem.logCancel ∧
      aborted.mem.cancelled = 1 ∧ aborted.mem.cancelled ≤ aborted.mem.cancels := by
  have hreach : program.Reaches opened anyMove aborted :=
    Concurrent.Reaches.start.exec (Concurrent.allowed_anyMove _ _) exec_abortedCommand
  obtain ⟨hagree, hcounts, -⟩ := cancel_aborts_one hreach
  exact ⟨hreach, hagree (fun _ => rfl) (fun _ => rfl), rfl, hcounts⟩

end LivoxMid360.Device.Cancel
