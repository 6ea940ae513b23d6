import LivoxMid360.Lib.Settling
import LivoxMid360.Simulator

/-!
# The work states of the simulated LiDAR

The state figure of the protocol, as edges between work states (`Figure`), and what the
machine of `DeviceModel` does with it over whole runs of `configure` and `tick`.

* `Moves allowed m m'`: the calls of `on_state` between two models are a chain from the old
  work state to the new one, and each is an allowed edge.  Every function of the machine
  moves along the figure; only the second loop of `configure` can restart the motor, and
  only for an entry that writes the scan pattern.
* `Chasing` is the invariant of a device that has been powered on: it is in one of the two
  timed states, or in the state that is requested.  It is what makes two ticks enough: a
  tick that completes SELFCHECK leads to MOTORSTARTUP at most, and one that completes
  MOTORSTARTUP to the target (`tick_settles`).

`work_state_machine` is the whole statement.  Times need not be in order for it.
-/

namespace LivoxMid360

open ChangeLog Settling

namespace Simulator

/-! ## The figure -/

/-- The edges of the state figure that the machine takes by itself. -/
inductive Figure : WorkState → WorkState → Prop where
  | selfCheckDone : Figure .kSelfCheck .kIdle
  | startMotor : Figure .kIdle .kMotorStartup
  | motorStarted : Figure .kMotorStartup .kReady
  | startSampling : Figure .kReady .kSampling
  | stopMotor : Figure .kReady .kIdle
  | stopSampling : Figure .kSampling .kReady

/-- A call on a device that is powered on. -/
inductive Call (Time : Type) where
  | configure (kvs : List (ℕ × List UInt8)) (now : Time)
  | tick (now : Time)

/-- The list of a `configure` writes the scan pattern. -/
def Call.WritesPattern {Time : Type} : Call Time → Prop
  | .configure kvs _ => ∃ value, (KEY_PATTERN_MODE, value) ∈ kvs
  | .tick _ => False

/-- The state changes a call may make: an edge of the figure, or the motor restarts because
the call writes the scan pattern. -/
def Allowed {Time : Type} (call : Call Time) (old new : WorkState) : Prop :=
  Figure old new ∨ (call.WritesPattern ∧ (old = .kSampling ∨ old = .kReady) ∧ new = .kMotorStartup)

namespace DeviceModel

variable {Time : Type}

/-! ## Moves -/

/-- The calls of `on_state` from `m` to `m'` are a chain of allowed changes. -/
def Moves (allowed : WorkState → WorkState → Prop) (m m' : DeviceModel Time) : Prop :=
  ∃ es, m'.onState = m.onState ++ es ∧ Chain m.workState es m'.workState ∧ ∀ e ∈ es, allowed e.1 e.2

section Moves

variable {allowed : WorkState → WorkState → Prop} {m m' m'' : DeviceModel Time}

/-- Nothing but the machine's state and the log matters. -/
theorem Moves.of_eq (hlog : m'.onState = m.onState) (hstate : m'.workState = m.workState) :
    Moves allowed m m' :=
  ⟨[], by rw [hlog, List.append_nil], hstate.symm, by simp⟩

theorem Moves.trans (h : Moves allowed m m') (h' : Moves allowed m' m'') : Moves allowed m m'' := by
  obtain ⟨es, hlog, hchain, hallowed⟩ := h
  obtain ⟨es', hlog', hchain', hallowed'⟩ := h'
  refine ⟨es ++ es', by rw [hlog', hlog, List.append_assoc], hchain.append hchain', ?_⟩
  intro e he
  obtain he | he := List.mem_append.mp he
  · exact hallowed e he
  · exact hallowed' e he

theorem Moves.mono {allowed' : WorkState → WorkState → Prop} (h : Moves allowed m m')
    (himp : ∀ old new, allowed old new → allowed' old new) : Moves allowed' m m' := by
  obtain ⟨es, hlog, hchain, hallowed⟩ := h
  exact ⟨es, hlog, hchain, fun e he => himp _ _ (hallowed e he)⟩

/-- One call of `_set_state`. -/
theorem Moves.setState (m : DeviceModel Time) {new : WorkState} (h : allowed m.workState new) :
    Moves allowed m (m.setState new) := by
  unfold DeviceModel.setState
  dsimp only
  split_ifs with hne
  · exact ⟨[(m.workState, new)], rfl, ⟨rfl, hne, rfl⟩, by simpa using h⟩
  · exact Moves.of_eq rfl rfl

theorem Moves.enterTimed [Add Time] (m : DeviceModel Time) {new : WorkState}
    (h : allowed m.workState new) (now : Time) : Moves allowed m (m.enterTimed new now) :=
  (Moves.setState m h).trans (Moves.of_eq rfl rfl)

end Moves

/-! ## On the way to the target -/

variable {m : DeviceModel Time}

theorem targetState_of_settings {m' : DeviceModel Time} (h : m'.settings = m.settings) :
    m'.targetState = m.targetState := by
  unfold targetState workTgtMode
  rw [h]

/-- The device is not in one of the two states that only the control channel enters. -/
def Working (m : DeviceModel Time) : Prop :=
  m.workState ≠ .kError ∧ m.workState ≠ .kUpgrade

/-- The device is on its way to the target: in a timed state, or there. -/
def Chasing (m : DeviceModel Time) : Prop :=
  m.workState = .kSelfCheck ∨ m.workState = .kMotorStartup ∨ m.workState = m.targetState

theorem Chasing.working (h : m.Chasing) : m.Working := by
  obtain hstate | hstate | hstate := h
  · simp [Working, hstate]
  · simp [Working, hstate]
  · have htarget := m.targetState_spec.1
    rw [← hstate] at htarget
    constructor
    · rintro herror
      simp [herror, WS_REQUESTABLE] at htarget
    · rintro hupgrade
      simp [hupgrade, WS_REQUESTABLE] at htarget

/-- The timed states that are still ahead at most. -/
def rank (m : DeviceModel Time) : ℕ :=
  match m.workState with
  | .kSelfCheck => 2
  | .kMotorStartup => 1
  | _ => 0

theorem rank_of_requestable (h : m.workState ∈ WS_REQUESTABLE) : m.rank = 0 := by
  simp only [WS_REQUESTABLE, List.mem_cons, List.not_mem_nil, or_false] at h
  obtain hstate | hstate | hstate := h <;> simp [rank, hstate]

/-- A device of rank 0 that is on its way has arrived. -/
theorem Chasing.settled (h : m.Chasing) (hrank : m.rank = 0) : m.workState = m.targetState := by
  obtain hstate | hstate | hstate := h
  · simp [rank, hstate] at hrank
  · simp [rank, hstate] at hrank
  · exact hstate

/-! ## Following the target -/

variable [Add Time] (now : Time)

/-- **What `_follow_target` does**, by the state it starts from. -/
theorem followTarget_cases (m : DeviceModel Time) :
    (m.workState = .kIdle ∧ m.targetState ≠ .kIdle ∧
        m.followTarget now = m.enterTimed .kMotorStartup now) ∨
      (m.workState = .kSampling ∧ m.targetState = .kReady ∧
        m.followTarget now = m.setState .kReady) ∨
      (m.workState = .kSampling ∧ m.targetState = .kIdle ∧
        m.followTarget now = (m.setState .kReady).setState .kIdle) ∨
      (m.workState = .kReady ∧ m.targetState ≠ .kReady ∧
        m.followTarget now = m.setState m.targetState) ∨
      ((m.workState = m.targetState ∨ m.workState ∉ WS_REQUESTABLE) ∧ m.followTarget now = m) := by
  have htarget : m.targetState = .kSampling ∨ m.targetState = .kIdle ∨ m.targetState = .kReady := by
    simpa [WS_REQUESTABLE] using m.targetState_spec.1
  unfold followTarget
  cases hstate : m.workState with
  | kIdle | kSampling | kReady => obtain htgt | htgt | htgt := htarget <;> simp [hstate, htgt]
  | kSelfCheck | kMotorStartup | kError | kUpgrade => simp [hstate, WS_REQUESTABLE]

/-- `_follow_target` moves along the figure. -/
theorem followTarget_moves (m : DeviceModel Time) : Moves Figure m (m.followTarget now) := by
  obtain ⟨hstate, -, heq⟩ | ⟨hstate, -, heq⟩ | ⟨hstate, -, heq⟩ | ⟨hstate, htgt, heq⟩ | ⟨-, heq⟩ :=
    m.followTarget_cases now
  · rw [heq]
    exact Moves.enterTimed m (hstate ▸ .startMotor) now
  · rw [heq]
    exact Moves.setState m (hstate ▸ .stopSampling)
  · rw [heq]
    refine (Moves.setState m (hstate ▸ .stopSampling)).trans (Moves.setState _ ?_)
    rw [setState_workState]
    exact .stopMotor
  · rw [heq]
    refine Moves.setState m ?_
    have htarget := m.targetState_spec.1
    simp only [WS_REQUESTABLE, List.mem_cons, List.not_mem_nil, or_false, htgt] at htarget
    obtain htarget | htarget := htarget
    · rw [hstate, htarget]
      exact .startSampling
    · rw [hstate, htarget]
      exact .stopMotor
  · rw [heq]
    exact Moves.of_eq rfl rfl

/-- **Following the target puts the device on its way.** -/
theorem Working.followTarget (h : m.Working) : (m.followTarget now).Chasing := by
  have htarget : (m.followTarget now).targetState = m.targetState :=
    targetState_of_settings (m.followTarget_settings now)
  unfold Chasing
  rw [htarget]
  obtain ⟨-, -, heq⟩ | ⟨-, htgt, heq⟩ | ⟨-, htgt, heq⟩ | ⟨-, -, heq⟩ | ⟨hstate, heq⟩ :=
    m.followTarget_cases now
  · rw [heq, enterTimed_workState]
    exact .inr (.inl rfl)
  · rw [heq, setState_workState, htgt]
    exact .inr (.inr rfl)
  · rw [heq, setState_workState, htgt]
    exact .inr (.inr rfl)
  · rw [heq, setState_workState]
    exact .inr (.inr rfl)
  · rw [heq]
    obtain hsettled | hother := hstate
    · exact .inr (.inr hsettled)
    · -- the states that cannot be requested, without the two excluded ones, are timed
      obtain ⟨herror, hupgrade⟩ := h
      cases hstate : m.workState <;> simp_all [WS_REQUESTABLE]

/-- A device on its way has nothing to follow. -/
theorem Chasing.followTarget_eq (h : m.Chasing) : m.followTarget now = m := by
  obtain ⟨hstate, htgt, -⟩ | ⟨hstate, htgt, -⟩ | ⟨hstate, htgt, -⟩ | ⟨hstate, htgt, -⟩ | ⟨-, heq⟩ :=
    m.followTarget_cases now
  · simp [Chasing, hstate, htgt.symm] at h
  · simp [Chasing, hstate, htgt] at h
  · simp [Chasing, hstate, htgt] at h
  · simp [Chasing, hstate, htgt.symm] at h
  · exact heq

/-- From IDLE only MOTORSTARTUP can be ahead. -/
theorem rank_followTarget_of_idle (h : m.workState = .kIdle) : (m.followTarget now).rank ≤ 1 := by
  obtain ⟨-, -, heq⟩ | ⟨hstate, -⟩ | ⟨hstate, -⟩ | ⟨hstate, -⟩ | ⟨-, heq⟩ :=
    m.followTarget_cases now
  · simp [heq, rank]
  · simp [h] at hstate
  · simp [h] at hstate
  · simp [h] at hstate
  · simp [heq, rank, h]

/-- From READY nothing is ahead. -/
theorem rank_followTarget_of_ready (h : m.workState = .kReady) : (m.followTarget now).rank = 0 := by
  obtain ⟨hstate, -⟩ | ⟨hstate, -⟩ | ⟨hstate, -⟩ | ⟨-, -, heq⟩ | ⟨-, heq⟩ :=
    m.followTarget_cases now
  · simp [h] at hstate
  · simp [h] at hstate
  · simp [h] at hstate
  · rw [heq]
    refine rank_of_requestable ?_
    rw [setState_workState]
    exact m.targetState_spec.1
  · simp [heq, rank, h]

/-! ## Writing settings -/

/-- The second loop of `configure` restarts the motor at most, for an entry of its list. -/
theorem foldl_apply_moves {kvs all : List (ℕ × List UInt8)} (hsub : ∀ e ∈ kvs, e ∈ all)
    (ret : RetCode) (m : DeviceModel Time) :
    Moves (Allowed (.configure all now)) m (kvs.foldl (apply now) (ret, m)).2 := by
  induction kvs generalizing ret m with
  | nil => exact Moves.of_eq rfl rfl
  | cons e kvs ih =>
    have hrest := ih (fun e' he' => hsub e' (by simp [he'])) (apply now (ret, m) e).1
      (apply now (ret, m) e).2
    have hstore : Moves (Allowed (.configure all now)) m (m.store e) := Moves.of_eq rfl rfl
    obtain ⟨-, hsame | ⟨hkey, hstate, hrestart⟩⟩ := apply_cases now ret m e
    · rw [← hsame] at hstore
      exact hstore.trans hrest
    · have hwrites : (KEY_PATTERN_MODE, e.2) ∈ all := by
        rw [← hkey]
        exact hsub e (by simp)
      have hmotor : Moves (Allowed (.configure all now)) (m.store e)
          ((m.store e).enterTimed .kMotorStartup now) :=
        Moves.enterTimed (m.store e) (.inr ⟨⟨e.2, hwrites⟩, hstate, rfl⟩) now
      rw [← hrestart] at hmotor
      exact (hstore.trans hmotor).trans hrest

theorem foldl_apply_working (kvs : List (ℕ × List UInt8)) (ret : RetCode) (h : m.Working) :
    (kvs.foldl (apply now) (ret, m)).2.Working := by
  induction kvs generalizing ret m with
  | nil => exact h
  | cons e kvs ih =>
    have hstep : (apply now (ret, m) e).2.Working := by
      obtain ⟨-, hsame | ⟨-, -, hrestart⟩⟩ := apply_cases now ret m e
      · rw [hsame]
        exact h
      · simp [hrestart, Working]
    exact ih (apply now (ret, m) e).1 hstep

/-- `configure` moves along the figure, or restarts the motor. -/
theorem configure_moves (m : DeviceModel Time) (kvs : List (ℕ × List UInt8)) :
    Moves (Allowed (.configure kvs now)) m (m.configure kvs now).2 := by
  obtain ⟨error, heq⟩ | ⟨-, -, heq⟩ := m.configure_cases now kvs
  · rw [heq]
    exact Moves.of_eq rfl rfl
  · rw [heq]
    exact (foldl_apply_moves now (fun _ he => he) RET_OK m).trans
      ((followTarget_moves now _).mono fun _ _ => .inl)

theorem Chasing.configure (h : m.Chasing) (kvs : List (ℕ × List UInt8)) :
    (m.configure kvs now).2.Chasing := by
  obtain ⟨error, heq⟩ | ⟨-, -, heq⟩ := m.configure_cases now kvs
  · rw [heq]
    exact h
  · rw [heq]
    exact (foldl_apply_working now kvs RET_OK h.working).followTarget now

/-! ## Ticks -/

variable [LE Time] [DecidableLE Time]

/-- **What `tick` does**: it completes a timed state that is due, and follows the target. -/
theorem tick_cases (m : DeviceModel Time) :
    (m.workState = .kSelfCheck ∧ m.stateDeadline ≤ now ∧
        m.tick now = (m.setState .kIdle).followTarget now) ∨
      (m.workState = .kMotorStartup ∧ m.stateDeadline ≤ now ∧
        m.tick now = (m.setState .kReady).followTarget now) ∨
      ((m.timed = true → ¬m.stateDeadline ≤ now) ∧ m.tick now = m.followTarget now) := by
  unfold tick
  dsimp only
  split_ifs with hdue hselfcheck
  · exact .inl ⟨hselfcheck, hdue.2, rfl⟩
  · have hmotor : m.workState = .kMotorStartup := by
      have htimed := hdue.1
      simp only [timed, hselfcheck, false_or, decide_eq_true_eq] at htimed
      exact htimed
    exact .inr (.inl ⟨hmotor, hdue.2, rfl⟩)
  · exact .inr (.inr ⟨fun htimed hle => hdue ⟨htimed, hle⟩, rfl⟩)

/-- `tick` moves along the figure. -/
theorem tick_moves (m : DeviceModel Time) : Moves Figure m (m.tick now) := by
  obtain ⟨hstate, -, heq⟩ | ⟨hstate, -, heq⟩ | ⟨-, heq⟩ := m.tick_cases now
  · rw [heq]
    exact (Moves.setState m (hstate ▸ .selfCheckDone)).trans (followTarget_moves now _)
  · rw [heq]
    exact (Moves.setState m (hstate ▸ .motorStarted)).trans (followTarget_moves now _)
  · rw [heq]
    exact followTarget_moves now m

@[simp] theorem tick_settings (m : DeviceModel Time) : (m.tick now).settings = m.settings := by
  obtain ⟨-, -, heq⟩ | ⟨-, -, heq⟩ | ⟨-, heq⟩ := m.tick_cases now <;> simp [heq]

theorem Chasing.tick (h : m.Chasing) : (m.tick now).Chasing := by
  obtain ⟨-, -, heq⟩ | ⟨-, -, heq⟩ | ⟨-, heq⟩ := m.tick_cases now
  · rw [heq]
    exact Working.followTarget now (by simp [Working])
  · rw [heq]
    exact Working.followTarget now (by simp [Working])
  · rw [heq]
    exact h.working.followTarget now

/-- **Ticks settle the device.**  No tick raises the rank, and one at or after the deadline
lowers it. -/
theorem tick_settles :
    Settles (fun (m : DeviceModel Time) now => m.tick now) (fun m now => m.stateDeadline ≤ now)
      Chasing rank where
  keeps m now h := h.tick now
  le m now h := by
    obtain ⟨hstate, -, heq⟩ | ⟨hstate, -, heq⟩ | ⟨-, heq⟩ := m.tick_cases now
    · have hrank := rank_followTarget_of_idle now (m.setState_workState .kIdle)
      rw [heq, show m.rank = 2 by simp [rank, hstate]]
      omega
    · rw [heq, rank_followTarget_of_ready now (m.setState_workState .kReady)]
      exact Nat.zero_le _
    · rw [heq, h.followTarget_eq now]
  lt m now h hdue hpos := by
    obtain ⟨hstate, -, heq⟩ | ⟨hstate, -, heq⟩ | ⟨hnot, -⟩ := m.tick_cases now
    · have hrank := rank_followTarget_of_idle now (m.setState_workState .kIdle)
      rw [heq, show m.rank = 2 by simp [rank, hstate]]
      omega
    · rw [heq, rank_followTarget_of_ready now (m.setState_workState .kReady)]
      exact hpos
    -- a device with something ahead is in a timed state, so a tick that is due completes it
    · have htimed : m.timed = true := by
        obtain hstate | hstate | hstate := h
        · simp [timed, hstate]
        · simp [timed, hstate]
        · rw [rank_of_requestable (hstate ▸ m.targetState_spec.1)] at hpos
          exact absurd hpos (Nat.lt_irrefl 0)
      exact absurd hdue (hnot htimed)

/-! ## Runs -/

/-- A call. -/
def exec (m : DeviceModel Time) : Call Time → DeviceModel Time
  | .configure kvs now => (m.configure kvs now).2
  | .tick now => m.tick now

theorem exec_moves (m : DeviceModel Time) (call : Call Time) :
    Moves (Allowed call) m (m.exec call) := by
  cases call with
  | configure kvs now => exact configure_moves now m kvs
  | tick now => exact (tick_moves now m).mono fun _ _ => .inl

/-- **Every device that has been powered on is on its way to its target**, after any calls. -/
theorem chasing_run (m : DeviceModel Time) (calls : List (Call Time)) :
    (calls.foldl exec (m.powerOn now)).Chasing := by
  have hstart : (m.powerOn now).Chasing := .inl (enterTimed_workState _ _ now)
  -- the invariant of the run is `Chasing`; any device in such a state would do as a start
  generalize m.powerOn now = device at hstart
  induction calls generalizing device with
  | nil => exact hstart
  | cons call calls ih =>
    refine ih (device.exec call) ?_
    cases call with
    | configure kvs now => exact hstart.configure now kvs
    | tick now => exact hstart.tick now

theorem foldl_tick_settings (m : DeviceModel Time) (ticks : List Time) :
    (ticks.foldl tick m).settings = m.settings := by
  induction ticks generalizing m with
  | nil => rfl
  | cons now ticks ih => rw [List.foldl_cons, ih, tick_settings]

/-- **The simulated LiDAR follows its state figure, rejects atomically and reaches its
target.**  Of a device that has been powered on and has had any calls since: a `configure`
that does not answer 0x00 or 0x21 changes nothing; the state changes of a call are edges of
the figure, or restart the motor in a `configure` that writes the scan pattern; and two ticks
that each come at the deadline or later bring it to the requested state, where further ticks
leave it. -/
theorem work_state_machine (m : DeviceModel Time) (start : Time) (calls : List (Call Time))
    {device : DeviceModel Time} (hrun : device = calls.foldl exec (m.powerOn start)) :
    (∀ kvs now, (device.configure kvs now).1.1 ≠ RET_OK →
      (device.configure kvs now).1.1 ≠ RET_PARAM_REBOOT_EFFECT →
      (device.configure kvs now).2 = device) ∧
    (∀ call, Moves (Allowed call) device (device.exec call)) ∧
    ∀ first second later, device.stateDeadline ≤ first →
      (device.tick first).stateDeadline ≤ second →
      device.settings.get KEY_WORK_TGT_MODE =
        some [((first :: second :: later).foldl tick device).workState.raw] := by
  have hchasing : device.Chasing := hrun ▸ chasing_run start m calls
  refine ⟨?_, exec_moves device, ?_⟩
  · intro kvs now hok hreboot
    obtain ⟨error, heq⟩ | ⟨hret, -⟩ := device.configure_cases now kvs
    · rw [heq]
    · exact absurd hret (not_or.mpr ⟨hok, hreboot⟩)
  · intro first second later hfirst hsecond
    -- SELFCHECK and MOTORSTARTUP at most are ahead
    have hrank : device.rank ≤ 2 := by
      unfold rank
      split <;> omega
    have hdue : AllDue (fun (m : DeviceModel Time) now => m.tick now)
        (fun m now => m.stateDeadline ≤ now) device [first, second] := ⟨hfirst, hsecond, trivial⟩
    have hsettled := tick_settles.settled hchasing hdue hrank later
    have hkept := tick_settles.keeps_foldl hchasing (first :: second :: later)
    have hstate := Chasing.settled hkept hsettled
    have hsame := foldl_tick_settings device (first :: second :: later)
    rw [hstate, ← hsame]
    exact (targetState_spec _).2

/-- A device with the factory settings, one tick after power-on: the motor starts, and after
two more ticks it samples. -/
theorem work_state_machine_boot : ∃ device : DeviceModel ℕ, device = [Call.tick 1].foldl exec
        (powerOn { startupDelay := 3, selfcheckDelay := 1, stateDeadline := 0 } 0) ∧
      device.workState = .kMotorStartup ∧
      device.settings.get KEY_WORK_TGT_MODE =
        some [([4, 5, 6].foldl tick device).workState.raw] :=
  ⟨_, rfl, rfl, (work_state_machine _ 0 [Call.tick 1] rfl).2.2 4 5 [6] (by decide) (by decide)⟩

end DeviceModel

end Simulator

end LivoxMid360
