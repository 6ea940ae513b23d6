import LivoxMid360.Device.Teardown

/-!
# One command at a time

All requests on the Session of a Device are meant to be made with `cmd_mutex` held, and
`attempt` holds it while it puts a new Session in the place of the old one.  There is one
exception: `Device::open` runs `apply_host_setup` without the mutex, on a Device that is
registered already.

* `holdsCmd_of_usesSession`: every other thread that is in a request, or replaces the
  Session, has `cmd_mutex`.
* `not_started_of_hostSetup`: without automatic reconnect, or as long as no push timeout is
  declared during the host setup, no worker is started then, and `open` is the only thread
  that can use the Session.
* `commands_exclusive`: then at most one thread is in a request, and the Session is not
  replaced under it.
* `open_shares_session`: otherwise the worker can replace the Session during the host
  setup, and make requests together with it.
-/

namespace LivoxMid360.Device

open Concurrent (anyMove)

/-! ## Who uses the Session -/

/-- `attempt` replays the host setup on the new Session. -/
@[grind] def AttemptPc.inRequest : AttemptPc → Bool
  | .replay => true
  | _ => false

/-- `attempt` puts the new Session in its place. -/
@[grind] def AttemptPc.swaps : AttemptPc → Bool
  | .swap => true
  | _ => false

/-- A thread is between the start and the end of a request on `Impl::session`. -/
def inRequest : ∀ t, Pc t → Bool
  | .owner, .hostSetup => true
  | .worker, .attempt a => a.inRequest
  | .user _, .command _ .request => true
  | .user _, .reconnect a => a.inRequest
  | _, _ => false

/-- A thread replaces `Impl::session`. -/
def swapsSession : ∀ t, Pc t → Bool
  | .worker, .attempt a => a.swaps
  | .user _, .reconnect a => a.swaps
  | _, _ => false

/-- A thread uses `Impl::session`. -/
def usesSession (t : Thread) (pc : Pc t) : Bool :=
  inRequest t pc || swapsSession t pc

theorem AttemptPc.holdsCmd_of_inRequest {a : AttemptPc} (h : (a.inRequest || a.swaps) = true) :
    a.holdsCmd = true := by
  cases a with
  | lockCmd => exact absurd h Bool.false_ne_true
  | _ => rfl

/-- Every thread but `open` has `cmd_mutex` when it uses the Session. -/
theorem holdsCmd_of_usesSession {t : Thread} (ht : t ≠ .owner) {pc : Pc t}
    (h : usesSession t pc = true) : holdsCmd t pc = true := by
  cases t with
  | owner => exact absurd rfl ht
  | receive | system => exact absurd h Bool.false_ne_true
  | worker =>
    cases pc with
    | attempt => exact AttemptPc.holdsCmd_of_inRequest h
    | _ => exact absurd h Bool.false_ne_true
  | user =>
    cases pc with
    | command reboot c =>
      cases c with
      | request => rfl
      | _ => exact absurd h Bool.false_ne_true
    | reconnect => exact AttemptPc.holdsCmd_of_inRequest h
    | _ => exact absurd h Bool.false_ne_true

/-- At most one thread is in a request, and no other thread is in one when the Session is
replaced. -/
def CommandsExclusive (c : Config) : Prop :=
  (∀ t u, inRequest t (c.pc t) = true → inRequest u (c.pc u) = true → t = u) ∧
    ∀ t u, swapsSession t (c.pc t) = true → inRequest u (c.pc u) = true → t = u

/-! ## The host setup of `open` -/

/-- The condition under which `open` is alone with the Session: with automatic reconnect,
the receive thread does not declare a push timeout during the host setup. -/
def OpensUndisturbed (enabled : Bool) : Thread → Move → Config → Prop :=
  fun t _ c => enabled = true → t = .receive → c.pc .receive = .declare .exchange →
    c.pc .owner ≠ .hostSetup

instance (enabled : Bool) (t : Thread) (a : Move) (c : Config) :
    Decidable (OpensUndisturbed enabled t a c) :=
  inferInstanceAs (Decidable (_ → _ → _ → _))

theorem ownerStep_ne_hostSetup {a : Move} {pc pc' : OwnerPc} {m m' : Memory}
    (h : ownerStep a pc m = some (pc', m')) : pc' ≠ .hostSetup := by
  unfold ownerStep at h
  split at h <;> grind

section Undisturbed

variable {enabled : Bool} {ok : Thread → Move → Config → Prop} {c : Config}

/-- A worker that was not started is nowhere. -/
theorem worker_not_started (h : (program enabled).Reaches registered ok c)
    (hstarted : c.mem.workerStarted = false) : c.pc .worker = .lock := by
  revert hstarted
  refine h.induction (I := fun c : Config => c.mem.workerStarted = false → c.pc .worker = .lock)
    (fun _ => rfl) fun t a c pc m _ ih _ hstep hstarted => ?_
  dsimp only at hstarted ⊢
  have hbefore : c.mem.workerStarted = false := by
    by_contra hstarted'
    have hstays := started_stays (Bool.not_eq_false _ ▸ hstarted')
      ((program enabled).move_eq_some.mpr ⟨pc, m, hstep, rfl⟩)
    exact absurd (hstays.symm.trans hstarted) (by decide)
  by_cases ht : t = .worker
  · subst ht
    rw [ih hbefore] at hstep
    simp [program, workerStep, hbefore] at hstep
  · rw [Function.update_of_ne (Ne.symm ht)]
    exact ih hbefore

/-- Before `open` has returned, there are no calls. -/
theorem user_idle_of_hostSetup (h : (program enabled).Reaches registered ok c)
    (howner : c.pc .owner = .hostSetup) (k : ℕ) : c.pc (.user k) = .idle := by
  by_contra hk
  have huse := phase_of_calls h (Finset.ne_empty_of_mem ((mem_calls_iff h k).mpr hk))
  rw [(ownership h).phase, howner] at huse
  exact absurd huse nofun

/-- Without automatic reconnect there is no worker. -/
theorem never_started (h : (program false).Reaches registered ok c) :
    c.mem.workerStarted = false := by
  refine h.induction (I := fun c : Config => c.mem.workerStarted = false) rfl
    fun t a c pc m _ ih _ hstep => ?_
  dsimp only
  by_cases ht : t = .owner
  · subst ht
    have howner : ownerStep a (c.pc .owner) c.mem = some (pc, m) := hstep
    unfold ownerStep at howner
    split at howner <;> grind
  · obtain ⟨-, -, -, -, ⟨-, hsame, -⟩ | ⟨hfalse, -⟩⟩ := step_passive ht hstep
    · rw [hsame, ih]
    · exact absurd hfalse Bool.false_ne_true

/-- No disconnect is declared: the Device is connected, no worker was started, and the
receive thread is not in the rest of `declare_disconnected`. -/
@[grind] def Quiet (pc : ReceivePc) (m : Memory) : Prop :=
  m.connected = true ∧ m.workerStarted = false ∧ ∀ d, pc = .declare d → d = .exchange

theorem Quiet.receive {a : Move} {pc pc' : ReceivePc} {m m' : Memory} (h : Quiet pc m)
    (hpc : pc ≠ .declare .exchange) (hstep : receiveStep enabled a pc m = some (pc', m')) :
    Quiet pc' m' := by
  cases pc with
  | declare d => exact absurd (congrArg ReceivePc.declare (h.2.2 d rfl)) hpc
  | idle =>
    unfold receiveStep at hstep
    dsimp only at hstep
    split at hstep <;> grind
  | _ =>
    unfold receiveStep at hstep
    grind

/-- **The host setup is undisturbed**, unless a push timeout is declared. -/
theorem undisturbed (h : (program true).Reaches registered (OpensUndisturbed true) c)
    (howner : c.pc .owner = .hostSetup) : Quiet (c.pc .receive) c.mem := by
  revert howner
  refine h.induction
    (I := fun c : Config => c.pc .owner = .hostSetup → Quiet (c.pc .receive) c.mem)
    (by simp [registered, Quiet]) fun t a c pc m hreach ih hok hstep howner => ?_
  dsimp only at howner ⊢
  by_cases ht : t = .owner
  · subst ht
    rw [Function.update_self] at howner
    exact absurd howner (ownerStep_ne_hostSetup hstep)
  · rw [Function.update_of_ne (Ne.symm ht)] at howner
    have hquiet := ih howner
    cases t with
    | owner => exact absurd rfl ht
    | receive =>
      rw [Function.update_self]
      exact hquiet.receive (fun hpc => hok rfl rfl hpc howner) hstep
    | worker =>
      rw [worker_not_started hreach hquiet.2.1] at hstep
      simp [program, workerStep, hquiet.2.1] at hstep
    | user k =>
      have hphase : c.mem.phase = .opening := by
        rw [(ownership hreach).phase, howner]
        rfl
      rw [user_idle_of_hostSetup hreach howner k] at hstep
      simp [program, userStep, hphase] at hstep
    | system =>
      cases hstep
      exact hquiet

/-- So no worker is started during the host setup. -/
theorem not_started_of_hostSetup
    (h : (program enabled).Reaches registered (OpensUndisturbed enabled) c)
    (howner : c.pc .owner = .hostSetup) : c.mem.workerStarted = false := by
  cases enabled with
  | false => exact never_started h
  | true => exact (undisturbed h howner).2.1

/-- Then nobody else uses the Session. -/
theorem owner_of_usesSession
    (h : (program enabled).Reaches registered (OpensUndisturbed enabled) c)
    (howner : c.pc .owner = .hostSetup) {t : Thread} (ht : usesSession t (c.pc t) = true) :
    t = .owner := by
  by_contra hne
  cases t with
  | owner => exact hne rfl
  | receive | system => exact absurd ht Bool.false_ne_true
  | worker =>
    rw [worker_not_started h (not_started_of_hostSetup h howner)] at ht
    exact absurd ht Bool.false_ne_true
  | user k =>
    rw [user_idle_of_hostSetup h howner k] at ht
    exact absurd ht Bool.false_ne_true

end Undisturbed

/-! ## Mutual exclusion -/

theorem hostSetup_of_usesSession {pc : OwnerPc} (h : usesSession .owner pc = true) :
    pc = .hostSetup := by
  cases pc with
  | hostSetup => rfl
  | _ => exact absurd h Bool.false_ne_true

/-- One thread at most uses the Session. -/
theorem usesSession_unique {enabled : Bool} {c : Config}
    (h : (program enabled).Reaches registered (OpensUndisturbed enabled) c) {t u : Thread}
    (ht : usesSession t (c.pc t) = true) (hu : usesSession u (c.pc u) = true) : t = u := by
  by_cases htowner : t = .owner
  · subst htowner
    exact (owner_of_usesSession h (hostSetup_of_usesSession ht) hu).symm
  by_cases huowner : u = .owner
  · subst huowner
    exact owner_of_usesSession h (hostSetup_of_usesSession hu) ht
  exact Concurrent.holds_unique (holdsCmd_iff h) (holdsCmd_of_usesSession htowner ht)
    (holdsCmd_of_usesSession huowner hu)

/-- **Commands are mutually exclusive** in every run without automatic reconnect, and in
every run in which no push timeout is declared during the host setup of `open`. -/
theorem commands_exclusive {enabled : Bool} {c : Config}
    (h : (program enabled).Reaches registered (OpensUndisturbed enabled) c) :
    CommandsExclusive c := by
  have huses : ∀ t, inRequest t (c.pc t) = true → usesSession t (c.pc t) = true := by
    intro t ht
    rw [usesSession, ht, Bool.true_or]
  have hswaps : ∀ t, swapsSession t (c.pc t) = true → usesSession t (c.pc t) = true := by
    intro t ht
    rw [usesSession, ht, Bool.or_true]
  constructor
  · intro t u ht hu
    exact usesSession_unique h (huses t ht) (huses u hu)
  · intro t u ht hu
    exact usesSession_unique h (hswaps t ht) (huses u hu)

/-- A caller in a command. -/
def oneCommand : List (Thread × Move) :=
  [(.owner, .go), (.user 0, .command false), (.user 0, .go), (.user 0, .go), (.user 0, .go)]

theorem commands_exclusive_oneCommand :
    ∃ c, (program true).Reaches registered (OpensUndisturbed true) c ∧
      c.pc (.user 0) = .command false .request ∧ CommandsExclusive c := by
  have hallowed : (program true).Allowed (OpensUndisturbed true) oneCommand registered := by decide
  have hrun : ((program true).exec oneCommand registered).any (fun c =>
      decide (c.pc (.user 0) = .command false .request)) = true := by decide
  obtain ⟨c, hreach, hc⟩ := Concurrent.Reaches.of_exec hallowed hrun
  exact ⟨c, hreach, of_decide_eq_true hc, commands_exclusive hreach⟩

/-- A push timeout is declared during the host setup, and the worker makes `steps` steps. -/
def timeoutInSetup (steps : ℕ) : List (Thread × Move) :=
  (.receive, .refresh) :: timeoutTick ++ List.replicate steps (.worker, .go)

/-- During the host setup of `open` the worker replaces the Session, and it makes
requests at the same time. -/
theorem open_shares_session :
    (∃ c, (program true).Reaches registered anyMove c ∧ inRequest .owner (c.pc .owner) = true ∧
      swapsSession .worker (c.pc .worker) = true ∧ ¬CommandsExclusive c) ∧
    ∃ c, (program true).Reaches registered anyMove c ∧ inRequest .owner (c.pc .owner) = true ∧
      inRequest .worker (c.pc .worker) = true ∧ ¬CommandsExclusive c := by
  have hswap : ((program true).exec (timeoutInSetup 13) registered).any (fun c =>
      decide (inRequest .owner (c.pc .owner) = true ∧
        swapsSession .worker (c.pc .worker) = true)) = true := by decide
  have hreplay : ((program true).exec (timeoutInSetup 15) registered).any (fun c =>
      decide (inRequest .owner (c.pc .owner) = true ∧
        inRequest .worker (c.pc .worker) = true)) = true := by decide
  constructor
  · obtain ⟨c, hreach, hc⟩ := Concurrent.Reaches.of_exec (Concurrent.allowed_anyMove _ _) hswap
    obtain ⟨howner, hworker⟩ := of_decide_eq_true hc
    refine ⟨c, hreach, howner, hworker, fun hexclusive => ?_⟩
    exact absurd (hexclusive.2 .worker .owner hworker howner) nofun
  · obtain ⟨c, hreach, hc⟩ := Concurrent.Reaches.of_exec (Concurrent.allowed_anyMove _ _) hreplay
    obtain ⟨howner, hworker⟩ := of_decide_eq_true hc
    refine ⟨c, hreach, howner, hworker, fun hexclusive => ?_⟩
    exact absurd (hexclusive.1 .worker .owner hworker howner) nofun

end LivoxMid360.Device
