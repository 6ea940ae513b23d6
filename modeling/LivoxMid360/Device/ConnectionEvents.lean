import LivoxMid360.Device.Connection

/-!
# Connection events and the connection

`declare_disconnected` first clears `connected` and then queues kDisconnected; `attempt`
first queues kReconnected and then sets `connected`.  The receive thread drains the queue
and delivers.  So between the two steps of either, the flag and the events disagree.

* `Link`: the four steps that matter, said once for every thread.
* `Stage`: the connection goes round through four stages, and `Agrees` says how the
  places of the threads, the flag and the events belong to each; `Agrees.step` is the
  invariant.
* `events_follow_connection`: as long as kReconnected is queued after every disconnect
  declared so far, and not delivered before its attempt has set the flag, the delivered
  events alternate and a delivered kReconnected can be relied on.
* `events_out_of_step`: both conditions can fail.
-/

namespace LivoxMid360.Device

open Concurrent (anyMove)

/-! ## Where the threads are -/

/-- `connected` is cleared, and kDisconnected is not queued yet. -/
@[grind] def DeclarePc.declaring : DeclarePc → Bool
  | .lock | .queue => true
  | _ => false

/-- kReconnected is about to be queued. -/
@[grind] def AttemptPc.queueing : AttemptPc → Bool
  | .queue => true
  | _ => false

/-- kReconnected is queued, and `connected` is not set yet. -/
@[grind] def AttemptPc.storing : AttemptPc → Bool
  | .queueUnlock | .store => true
  | _ => false

/-- The attempt has found the Device disconnected, and goes on. -/
@[grind] def AttemptPc.reconnecting : AttemptPc → Bool
  | .lockCmd | .check | .notify | .settleLock | .settleUnlock | .unlockCmd _ => false
  | _ => true

@[grind =] theorem AttemptPc.storing_failed (f : Failure) : (failed f).storing = false := by
  cases f <;> rfl

@[grind] def CommandPc.declaring : CommandPc → Bool
  | .declare d => d.declaring
  | _ => false

@[grind] def ReceivePc.declaring : ReceivePc → Bool
  | .declare d => d.declaring
  | _ => false

@[grind] def UserPc.declaring : UserPc → Bool
  | .command _ c => c.declaring
  | .disconnect d => d.declaring
  | _ => false

/-- Where a thread has cleared `connected` and not queued kDisconnected yet. -/
def declaring : ∀ t, Pc t → Bool
  | .receive, pc => pc.declaring
  | .user _, pc => pc.declaring
  | _, _ => false

@[grind] def WorkerPc.attemptPc : WorkerPc → Option AttemptPc
  | .attempt a => some a
  | _ => none

@[grind] def UserPc.attemptPc : UserPc → Option AttemptPc
  | .reconnect a => some a
  | _ => none

/-- Where a thread is in `attempt`. -/
def attemptPc : ∀ t, Pc t → Option AttemptPc
  | .worker, pc => pc.attemptPc
  | .user _, pc => pc.attemptPc
  | _, _ => none

/-- Where a thread is about to queue kReconnected. -/
def queueing (t : Thread) (pc : Pc t) : Bool :=
  (attemptPc t pc).any AttemptPc.queueing

/-- Where a thread has queued kReconnected and not set `connected` yet. -/
def storing (t : Thread) (pc : Pc t) : Bool :=
  (attemptPc t pc).any AttemptPc.storing

/-- Where a thread goes on with an attempt. -/
def reconnecting (t : Thread) (pc : Pc t) : Bool :=
  (attemptPc t pc).any AttemptPc.reconnecting

/-- The events that the receive thread has drained and not delivered. -/
@[grind] def ReceivePc.batch : ReceivePc → List ConnectionEvent
  | .drainUnlock events | .deliver events => events
  | _ => []

/-- All events queued so far. -/
def queued (c : Config) : List ConnectionEvent :=
  c.mem.delivered ++ (c.pc .receive).batch ++ c.mem.pending

/-! ## What a step does to the connection -/

/-- The steps that matter: nothing changes; `connected` is cleared; kDisconnected is
queued; kReconnected is queued; `connected` is set.  The Booleans say whether the thread
is between the first two, before and after, between the last two, before and after, and
about to queue kReconnected. -/
@[grind] def Link (d d' s s' r : Bool) (m m' : Memory) (q q' : List ConnectionEvent) : Prop :=
  m'.connected = m.connected ∧ m'.declared = m.declared ∧ q' = q ∧ d' = d ∧ s' = s ∨
  m.connected = true ∧ m'.connected = false ∧ m'.declared = m.declared + 1 ∧ q' = q ∧
    d' = true ∧ s = false ∧ s' = false ∨
  m'.connected = m.connected ∧ m'.declared = m.declared ∧ q' = q ++ [.kDisconnected] ∧
    d = true ∧ d' = false ∧ s = false ∧ s' = false ∨
  m'.connected = m.connected ∧ m'.declared = m.declared ∧ q' = q ++ [.kReconnected] ∧
    r = true ∧ d = false ∧ d' = false ∧ s = false ∧ s' = true ∨
  m'.connected = true ∧ m'.declared = m.declared ∧ q' = q ∧ d = false ∧ d' = false ∧
    s = true ∧ s' = false

theorem Link.prepend {d d' s s' r : Bool} {m m' : Memory} {q q' : List ConnectionEvent}
    (h : Link d d' s s' r m m' q q') (l : List ConnectionEvent) :
    Link d d' s s' r m m' (l ++ q) (l ++ q') := by
  grind

section Link

variable {enabled : Bool} {t : Thread} {a : Move} {m m' : Memory}

theorem declareStep_link {d : DeclarePc} {d' : Option DeclarePc}
    (h : declareStep enabled t d m = some (d', m')) :
    m'.delivered = m.delivered ∧
      Link d.declaring (d'.any DeclarePc.declaring) false false false m m' m.pending
        m'.pending := by
  unfold declareStep at h
  split at h <;> grind

theorem attemptStep_link {pc : AttemptPc} {r : AttemptPc ⊕ Bool}
    (h : attemptStep t a pc m = some (r, m')) :
    m'.delivered = m.delivered ∧
      Link false false pc.storing (r.elim AttemptPc.storing fun _ => false) pc.queueing m m'
        m.pending m'.pending := by
  unfold attemptStep at h
  split at h <;> grind

theorem commandStep_link {reboot : Bool} {c : CommandPc} {c' : Option CommandPc}
    (h : commandStep enabled reboot t a c m = some (c', m')) :
    m'.delivered = m.delivered ∧
      Link c.declaring (c'.any CommandPc.declaring) false false false m m' m.pending
        m'.pending := by
  cases c with
  | declare =>
    obtain ⟨r, hstep, rfl⟩ := Concurrent.map_step_eq_some.mp h
    have hdeclare := declareStep_link hstep
    cases r <;> exact hdeclare
  | _ =>
    unfold commandStep at h
    grind

/-- The steps of a thread at the places `pc` and `pc'`. -/
def LinkStep (t : Thread) (pc pc' : Pc t) (m m' : Memory) (q q' : List ConnectionEvent) : Prop :=
  Link (declaring t pc) (declaring t pc') (storing t pc) (storing t pc') (queueing t pc) m m' q q'

theorem ownerStep_link {pc pc' : OwnerPc} (h : ownerStep a pc m = some (pc', m')) :
    m'.delivered = m.delivered ∧ LinkStep .owner pc pc' m m' m.pending m'.pending := by
  unfold ownerStep at h
  unfold LinkStep declaring queueing storing attemptPc
  split at h <;> grind

theorem workerStep_link {pc pc' : WorkerPc} (h : workerStep a pc m = some (pc', m')) :
    m'.delivered = m.delivered ∧ LinkStep .worker pc pc' m m' m.pending m'.pending := by
  cases pc with
  | attempt =>
    obtain ⟨r, hstep, rfl⟩ := Concurrent.map_step_eq_some.mp h
    have hattempt := attemptStep_link hstep
    cases r <;> exact hattempt
  | _ =>
    unfold workerStep at h
    unfold LinkStep declaring queueing storing attemptPc
    grind

theorem userStep_link {k : ℕ} {pc pc' : UserPc} (h : userStep enabled k a pc m = some (pc', m')) :
    m'.delivered = m.delivered ∧ LinkStep (.user k) pc pc' m m' m.pending m'.pending := by
  cases pc with
  | idle =>
    unfold userStep at h
    unfold LinkStep declaring queueing storing attemptPc
    dsimp only at h
    split_ifs at h
    split at h <;> grind
  | command =>
    obtain ⟨⟨r, m₁⟩, hstep, heq⟩ := Option.map_eq_some_iff.mp h
    have hcommand := commandStep_link hstep
    cases r <;> cases heq <;> exact hcommand
  | reconnect =>
    obtain ⟨⟨r, m₁⟩, hstep, heq⟩ := Option.map_eq_some_iff.mp h
    have hattempt := attemptStep_link hstep
    cases r <;> cases heq <;> exact hattempt
  | disconnect =>
    obtain ⟨⟨r, m₁⟩, hstep, heq⟩ := Option.map_eq_some_iff.mp h
    have hdeclare := declareStep_link hstep
    cases r <;> cases heq <;> exact hdeclare

/-- Draining and delivering moves events along. -/
theorem receiveStep_link {pc pc' : ReceivePc} (h : receiveStep enabled a pc m = some (pc', m')) :
    LinkStep .receive pc pc' m m' (m.delivered ++ pc.batch ++ m.pending)
      (m'.delivered ++ pc'.batch ++ m'.pending) := by
  cases pc with
  | declare =>
    obtain ⟨r, hstep, rfl⟩ := Concurrent.map_step_eq_some.mp h
    obtain ⟨hdelivered, hdeclare⟩ := declareStep_link hstep
    have hlink := hdeclare.prepend (m.delivered ++ [])
    rw [hdelivered]
    cases r <;> exact hlink
  | idle =>
    unfold receiveStep at h
    unfold LinkStep declaring queueing storing attemptPc
    dsimp only at h
    split at h <;> grind
  | _ =>
    unfold receiveStep at h
    unfold LinkStep declaring queueing storing attemptPc
    grind

variable {pc : Pc t}

/-- What a step does to the connection and to all events queued so far. -/
theorem queued_link {c : Config} (h : (program enabled).step t a (c.pc t) c.mem = some (pc, m)) :
    LinkStep t (c.pc t) pc c.mem m (queued c) (queued ⟨Function.update c.pc t pc, m⟩) := by
  unfold queued
  dsimp only
  have hother : t ≠ .receive → m.delivered = c.mem.delivered ∧
      LinkStep t (c.pc t) pc c.mem m c.mem.pending m.pending →
      LinkStep t (c.pc t) pc c.mem m (c.mem.delivered ++ (c.pc .receive).batch ++ c.mem.pending)
        (m.delivered ++ (Function.update c.pc t pc .receive).batch ++ m.pending) := by
    rintro ht ⟨hdelivered, hlink⟩
    rw [Function.update_of_ne (Ne.symm ht), hdelivered]
    exact hlink.prepend _
  cases t with
  | owner => exact hother nofun (ownerStep_link h)
  | receive =>
    rw [Function.update_self]
    exact receiveStep_link h
  | worker => exact hother nofun (workerStep_link h)
  | user => exact hother nofun (userStep_link h)
  | system =>
    cases h
    exact hother nofun ⟨rfl, .inl ⟨rfl, rfl, rfl, rfl, rfl⟩⟩

/-- An attempt goes on with a Device that it has found disconnected. -/
theorem attemptStep_reconnecting {pc pc' : AttemptPc}
    (h : attemptStep t a pc m = some (.inl pc', m')) (hpc : pc'.reconnecting = true) :
    m'.connected = m.connected ∧ (pc.reconnecting = true ∨ m.connected = false) := by
  unfold attemptStep at h
  split at h <;> grind

theorem workerStep_reconnecting {pc pc' : WorkerPc} (h : workerStep a pc m = some (pc', m'))
    (hpc : pc'.attemptPc.any AttemptPc.reconnecting = true) :
    m'.connected = m.connected ∧
      (pc.attemptPc.any AttemptPc.reconnecting = true ∨ m.connected = false) := by
  cases pc with
  | attempt =>
    obtain ⟨r, hstep, rfl⟩ := Concurrent.map_step_eq_some.mp h
    cases r with
    | inl => exact attemptStep_reconnecting hstep hpc
    | inr => exact absurd hpc Bool.false_ne_true
  | _ =>
    unfold workerStep at h
    grind

theorem userStep_reconnecting {k : ℕ} {pc pc' : UserPc}
    (h : userStep enabled k a pc m = some (pc', m'))
    (hpc : pc'.attemptPc.any AttemptPc.reconnecting = true) :
    m'.connected = m.connected ∧
      (pc.attemptPc.any AttemptPc.reconnecting = true ∨ m.connected = false) := by
  cases pc with
  | idle =>
    unfold userStep at h
    dsimp only at h
    split_ifs at h
    split at h <;> grind
  | reconnect =>
    obtain ⟨⟨r, m₁⟩, hstep, heq⟩ := Option.map_eq_some_iff.mp h
    cases r with
    | inl =>
      cases heq
      exact attemptStep_reconnecting hstep hpc
    | inr =>
      cases heq
      exact absurd hpc Bool.false_ne_true
  | command | disconnect =>
    obtain ⟨⟨r, m₁⟩, -, heq⟩ := Option.map_eq_some_iff.mp h
    cases r <;> cases heq <;> exact absurd hpc Bool.false_ne_true

theorem step_reconnecting {pc' : Pc t} (h : (program enabled).step t a pc m = some (pc', m'))
    (hpc : reconnecting t pc' = true) :
    m'.connected = m.connected ∧ (reconnecting t pc = true ∨ m.connected = false) := by
  cases t with
  | owner | receive | system => exact absurd hpc Bool.false_ne_true
  | worker => exact workerStep_reconnecting h hpc
  | user => exact userStep_reconnecting h hpc

/-- An attempt that goes on has `cmd_mutex`. -/
theorem holdsCmd_of_reconnecting (h : reconnecting t pc = true) : holdsCmd t pc = true := by
  have hattempt : ∀ a : AttemptPc, a.reconnecting = true → a.holdsCmd = true := by
    intro a ha
    cases a with
    | lockCmd => exact absurd ha Bool.false_ne_true
    | _ => rfl
  cases t with
  | owner | receive | system => exact absurd h Bool.false_ne_true
  | worker =>
    cases pc with
    | attempt a => exact hattempt a h
    | _ => exact absurd h Bool.false_ne_true
  | user =>
    cases pc with
    | reconnect a => exact hattempt a h
    | _ => exact absurd h Bool.false_ne_true

theorem reconnecting_of_storing (h : storing t pc = true) : reconnecting t pc = true := by
  unfold storing at h
  unfold reconnecting
  generalize attemptPc t pc = o at h ⊢
  cases o with
  | none => exact h
  | some a =>
    cases a with
    | queueUnlock | store => rfl
    | _ => exact absurd h Bool.false_ne_true

theorem reconnecting_of_queueing (h : queueing t pc = true) : reconnecting t pc = true := by
  unfold queueing at h
  unfold reconnecting
  generalize attemptPc t pc = o at h ⊢
  cases o with
  | none => exact h
  | some a =>
    cases a with
    | queue => rfl
    | _ => exact absurd h Bool.false_ne_true

end Link

/-! ## Alternation -/

/-- kDisconnected and kReconnected in turn, beginning with kDisconnected. -/
def Alternates (q : List ConnectionEvent) : Prop :=
  ∀ i e, q[i]? = some e → e = if i % 2 = 0 then .kDisconnected else .kReconnected

namespace Alternates

variable {q r : List ConnectionEvent} {e : ConnectionEvent}

theorem of_append (h : Alternates (q ++ r)) : Alternates q := by
  intro i e hi
  refine h i e ?_
  rw [List.getElem?_append_left (List.getElem?_eq_some_iff.mp hi).1]
  exact hi

theorem append_singleton (h : Alternates q)
    (he : e = if q.length % 2 = 0 then .kDisconnected else .kReconnected) :
    Alternates (q ++ [e]) := by
  intro i e' hi
  rw [List.getElem?_append] at hi
  split_ifs at hi with hlt
  · exact h i e' hi
  · rw [List.getElem?_singleton, Option.ite_none_right_eq_some] at hi
    obtain ⟨hi, he'⟩ := hi
    obtain rfl : i = q.length := by omega
    exact (Option.some.inj he').symm.trans he

end Alternates

/-! ## The stages of a connection -/

/-- The connection, as its events show it: the Device is connected; a thread has cleared
`connected` and not queued kDisconnected yet; the Device is disconnected; a thread has
queued kReconnected and not set `connected` yet. -/
inductive Stage
  | connected
  | declaring (t : Thread)
  | lost
  | storing (t : Thread)

/-- The disconnects declared and not queued. -/
def Stage.owed : Stage → ℕ
  | .declaring _ => 1
  | _ => 0

/-- The threads, the flag and the events agree on the stage. -/
structure Agrees (p : Stage) (c : Config) : Prop where
  connected : c.mem.connected = true ↔ p = .connected
  declaring : ∀ t, declaring t (c.pc t) = true ↔ p = .declaring t
  storing : ∀ t, storing t (c.pc t) = true ↔ p = .storing t
  reconnecting : ∀ t, reconnecting t (c.pc t) = true → p ≠ .connected
  alternates : Alternates (queued c)
  odd : (queued c).length % 2 = 1 ↔ p = .lost
  declared : c.mem.declared = (queued c).count .kDisconnected + p.owed

/-- The condition under which the events follow the connection: kReconnected is queued
only after every disconnect declared so far, and delivered as the last event only after
its attempt has set `connected`. -/
def EventsInStep : Thread → Move → Config → Prop :=
  fun t _ c =>
    (queueing t (c.pc t) = true →
      c.mem.declared = (queued c).count .kDisconnected) ∧
    (t = .receive → c.pc .receive = .deliver [.kReconnected] → c.mem.pending = [] →
      ∀ u ∈ c.mem.cmdMutex, storing u (c.pc u) = false)

instance (t : Thread) (a : Move) (c : Config) : Decidable (EventsInStep t a c) :=
  inferInstanceAs (Decidable (_ ∧ _))

namespace Agrees

variable {enabled : Bool} {p : Stage} {c : Config} {t : Thread} {pc : Pc t} {m : Memory}

/-- Which threads are marked, after a step of one. -/
theorem update_marks {f : ∀ u, Pc u → Bool} {P : Thread → Prop} (ht : f t pc = true ↔ P t)
    (hother : ∀ u, u ≠ t → (f u (c.pc u) = true ↔ P u)) :
    ∀ u, f u (Function.update c.pc t pc u) = true ↔ P u :=
  (Function.forall_update_iff c.pc fun u pc => f u pc = true ↔ P u).mpr ⟨ht, hother⟩

theorem cut (h : Agrees p c) (hbefore : c.mem.connected = true) (hconnected : m.connected = false)
    (hdeclared : m.declared = c.mem.declared + 1)
    (hqueued : queued ⟨Function.update c.pc t pc, m⟩ = queued c)
    (hd : Device.declaring t pc = true) (hs : Device.storing t pc = false) :
    Agrees (.declaring t) ⟨Function.update c.pc t pc, m⟩ := by
  obtain rfl := h.connected.mp hbefore
  constructor
  · simp [hconnected]
  · refine update_marks (by simp [hd]) fun u hu => ?_
    simp [h.declaring u, Ne.symm hu]
  · refine update_marks (by simp [hs]) fun u hu => ?_
    simp [h.storing u]
  · exact fun _ _ => nofun
  · rw [hqueued]
    exact h.alternates
  · rw [hqueued, h.odd]
    exact iff_of_false nofun nofun
  · rw [hqueued]
    exact hdeclared.trans (congrArg (· + 1) h.declared)

theorem queueDisconnected (h : Agrees p c) (hconnected : m.connected = c.mem.connected)
    (hdeclared : m.declared = c.mem.declared)
    (hqueued : queued ⟨Function.update c.pc t pc, m⟩ = queued c ++ [.kDisconnected])
    (hd : Device.declaring t (c.pc t) = true) (hd' : Device.declaring t pc = false)
    (hs : Device.storing t pc = false) :
    Agrees .lost ⟨Function.update c.pc t pc, m⟩ := by
  obtain rfl := (h.declaring t).mp hd
  have heven : (queued c).length % 2 ≠ 1 := fun hodd => nomatch h.odd.mp hodd
  constructor
  · simp [hconnected, h.connected]
  · refine update_marks (by simp [hd']) fun u hu => ?_
    simp [h.declaring u, Ne.symm hu]
  · refine update_marks (by simp [hs]) fun u hu => ?_
    simp [h.storing u]
  · exact fun _ _ => nofun
  · rw [hqueued]
    exact h.alternates.append_singleton (by rw [if_pos (by omega)])
  · rw [hqueued, List.length_append, List.length_singleton]
    exact iff_of_true (by omega) rfl
  · rw [hqueued, List.count_append]
    exact hdeclared.trans h.declared

theorem queueReconnected (h : Agrees .lost c) (hconnected : m.connected = c.mem.connected)
    (hdeclared : m.declared = c.mem.declared)
    (hqueued : queued ⟨Function.update c.pc t pc, m⟩ = queued c ++ [.kReconnected])
    (hd : Device.declaring t pc = false) (hs : Device.storing t pc = true) :
    Agrees (.storing t) ⟨Function.update c.pc t pc, m⟩ := by
  have hodd : (queued c).length % 2 = 1 := h.odd.mpr rfl
  constructor
  · simp [hconnected, h.connected]
  · refine update_marks (by simp [hd]) fun u hu => ?_
    simp [h.declaring u]
  · refine update_marks (by simp [hs]) fun u hu => ?_
    simp [h.storing u, Ne.symm hu]
  · exact fun _ _ => nofun
  · rw [hqueued]
    exact h.alternates.append_singleton (by rw [if_neg (by omega)])
  · rw [hqueued, List.length_append, List.length_singleton]
    exact iff_of_false (by omega) nofun
  · rw [hqueued, List.count_append]
    exact hdeclared.trans h.declared

theorem store (h : Agrees p c) (hconnected : m.connected = true)
    (hdeclared : m.declared = c.mem.declared)
    (hqueued : queued ⟨Function.update c.pc t pc, m⟩ = queued c)
    (hd : Device.declaring t pc = false)
    (hs : Device.storing t (c.pc t) = true)
    (hs' : Device.storing t pc = false)
    (hnone : ∀ u, Device.reconnecting u (Function.update c.pc t pc u) = false) :
    Agrees .connected ⟨Function.update c.pc t pc, m⟩ := by
  obtain rfl := (h.storing t).mp hs
  constructor
  · simp [hconnected]
  · refine update_marks (by simp [hd]) fun u hu => ?_
    simp [h.declaring u]
  · refine update_marks (by simp [hs']) fun u hu => ?_
    simp [h.storing u, Ne.symm hu]
  · intro u hu
    exact absurd ((hnone u).symm.trans hu) Bool.false_ne_true
  · rw [hqueued]
    exact h.alternates
  · rw [hqueued, h.odd]
    exact iff_of_false nofun nofun
  · rw [hqueued]
    exact hdeclared.trans h.declared

theorem other (h : Agrees p c) (hconnected : m.connected = c.mem.connected)
    (hdeclared : m.declared = c.mem.declared)
    (hqueued : queued ⟨Function.update c.pc t pc, m⟩ = queued c)
    (hd : Device.declaring t pc = Device.declaring t (c.pc t))
    (hs : Device.storing t pc = Device.storing t (c.pc t))
    (hreconnecting : Device.reconnecting t pc = true → p ≠ .connected) :
    Agrees p ⟨Function.update c.pc t pc, m⟩ := by
  constructor
  · rw [hconnected]
    exact h.connected
  · exact update_marks (by rw [hd]; exact h.declaring t) fun u _ => h.declaring u
  · exact update_marks (by rw [hs]; exact h.storing t) fun u _ => h.storing u
  · exact (Function.forall_update_iff c.pc fun u pc =>
      Device.reconnecting u pc = true → p ≠ .connected).mpr
        ⟨hreconnecting, fun u _ => h.reconnecting u⟩
  · rw [hqueued]
    exact h.alternates
  · rw [hqueued]
    exact h.odd
  · rw [hqueued]
    exact hdeclared.trans h.declared

theorem step {a : Move} (h : Agrees p c) (hok : EventsInStep t a c)
    (hcmd : ∀ u, holdsCmd u (c.pc u) = true ↔ c.mem.cmdMutex = some u)
    (hstep : (program enabled).step t a (c.pc t) c.mem = some (pc, m)) :
    ∃ p', Agrees p' ⟨Function.update c.pc t pc, m⟩ := by
  have hreconnecting := step_reconnecting hstep
  -- Two threads that both go on with an attempt both have `cmd_mutex`.
  have hunique : ∀ u v, Device.reconnecting u (c.pc u) = true →
      Device.reconnecting v (c.pc v) = true → u = v := by
    intro u v hu hv
    exact Concurrent.holds_unique hcmd (holdsCmd_of_reconnecting hu) (holdsCmd_of_reconnecting hv)
  rcases queued_link hstep with ⟨hconnected, hdeclared, hqueued, hd, hs⟩ |
    ⟨hbefore, hconnected, hdeclared, hqueued, hd, -, hs⟩ |
    ⟨hconnected, hdeclared, hqueued, hd, hd', -, hs⟩ |
    ⟨hconnected, hdeclared, hqueued, hr, -, hd, hbefore, hs⟩ |
    ⟨hconnected, hdeclared, hqueued, -, hd, hs, hs'⟩
  · refine ⟨p, h.other hconnected hdeclared hqueued hd hs fun hpc hp => ?_⟩
    rcases (hreconnecting hpc).2 with hbefore | hbefore
    · exact h.reconnecting t hbefore hp
    · exact absurd (hbefore.symm.trans (h.connected.mpr hp)) Bool.false_ne_true
  · exact ⟨.declaring t, h.cut hbefore hconnected hdeclared hqueued hd hs⟩
  · exact ⟨.lost, h.queueDisconnected hconnected hdeclared hqueued hd hd' hs⟩
  · have hgoes := reconnecting_of_queueing hr
    have hdeclared' := (hok.1 hr).symm.trans h.declared
    obtain rfl : p = .lost := by
      cases p with
      | connected => exact absurd rfl (h.reconnecting t hgoes)
      | declaring => exact absurd hdeclared' (by simp [Stage.owed])
      | lost => rfl
      | storing u =>
        have hu := (h.storing u).mpr rfl
        obtain rfl := hunique u t (reconnecting_of_storing hu) hgoes
        exact absurd (hbefore.symm.trans hu) Bool.false_ne_true
    exact ⟨.storing t, h.queueReconnected hconnected hdeclared hqueued hd hs⟩
  · refine ⟨.connected, h.store hconnected hdeclared hqueued hd hs hs' ?_⟩
    refine (Function.forall_update_iff c.pc fun u pc => Device.reconnecting u pc = false).mpr
      ⟨Bool.eq_false_iff.mpr fun hpc => ?_, fun u hu => Bool.eq_false_iff.mpr fun hpc => ?_⟩
    · have hp := h.connected.mp ((hreconnecting hpc).1.symm.trans hconnected)
      exact h.reconnecting t (reconnecting_of_storing hs) hp
    · exact hu (hunique u t hpc (reconnecting_of_storing hs))

end Agrees

/-! ## Delivery -/

section Delivery

variable {enabled : Bool} {c : Config}

theorem agrees (h : (program enabled).Reaches registered EventsInStep c) : ∃ p, Agrees p c := by
  refine h.induction (I := fun c => ∃ p, Agrees p c) ⟨.connected, ?_⟩
    fun t a c pc m hreach ih hok hstep => ?_
  · constructor
    · simp [registered]
    · intro t
      cases t <;> simp [registered, declaring, ReceivePc.declaring, UserPc.declaring]
    · intro t
      cases t <;> simp [registered, storing, attemptPc, WorkerPc.attemptPc, UserPc.attemptPc]
    · intro t
      cases t <;> simp [registered, reconnecting, attemptPc, WorkerPc.attemptPc, UserPc.attemptPc]
    · intro i e hi
      exact absurd hi (by simp [queued, registered, ReceivePc.batch])
    · exact iff_of_false (by simp [queued, registered, ReceivePc.batch]) (by simp)
    · rfl
  · obtain ⟨p, hp⟩ := ih
    exact hp.step hok (holdsCmd_iff hreach) hstep

theorem receiveStep_delivers {a : Move} {pc pc' : ReceivePc} {m m' : Memory} {e : ConnectionEvent}
    (h : receiveStep enabled a pc m = some (pc', m'))
    (hdelivered : m'.delivered = m.delivered ++ [e]) : ∃ events, pc = .deliver (e :: events) := by
  have hsame : m'.delivered ≠ m.delivered := by simp [hdelivered]
  cases pc with
  | declare =>
    obtain ⟨r, hstep, rfl⟩ := Concurrent.map_step_eq_some.mp h
    exact absurd (declareStep_link hstep).1 hsame
  | deliver events =>
    cases events with
    | nil =>
      cases h
      exact absurd rfl hsame
    | cons e' events =>
      cases h
      obtain rfl := List.singleton_inj.mp (List.append_cancel_left hdelivered)
      exact ⟨events, rfl⟩
  | idle =>
    unfold receiveStep at h
    dsimp only at h
    split at h <;> grind
  | _ =>
    unfold receiveStep at h
    grind

/-- When kReconnected is next, the Device is connected, or a later disconnect has been
declared. -/
theorem Agrees.reconnected {p : Stage} {a : Move} (h : Agrees p c)
    (hcmd : ∀ u, holdsCmd u (c.pc u) = true ↔ c.mem.cmdMutex = some u)
    (hok : EventsInStep .receive a c) {events : List ConnectionEvent}
    (hpc : c.pc .receive = .deliver (.kReconnected :: events)) :
    c.mem.connected = true ∨ c.mem.delivered.count .kDisconnected < c.mem.declared := by
  have hqueued : queued c = c.mem.delivered ++ .kReconnected :: (events ++ c.mem.pending) := by
    rw [queued, hpc, List.append_assoc]
    rfl
  have hodd : c.mem.delivered.length % 2 ≠ 0 := by
    intro heven
    have hevent := h.alternates c.mem.delivered.length .kReconnected (by simp [hqueued])
    rw [if_pos heven] at hevent
    exact absurd hevent nofun
  have hdeclared := h.declared
  rw [hqueued, List.count_append] at hdeclared
  cases hrest : events ++ c.mem.pending with
  | cons e =>
    -- The next event is the later disconnect.
    have hnext := h.alternates (c.mem.delivered.length + 1) e (by simp [hqueued, hrest])
    rw [if_pos (by omega)] at hnext
    have hcount : 0 < List.count .kDisconnected (.kReconnected :: (events ++ c.mem.pending)) :=
      List.count_pos_iff.mpr (by simp [hrest, hnext])
    exact .inr (by omega)
  | nil =>
    obtain ⟨rfl, hpending⟩ := List.append_eq_nil_iff.mp hrest
    cases p with
    | connected => exact .inl (h.connected.mpr rfl)
    | declaring => exact .inr (by simp only [Stage.owed] at hdeclared; omega)
    | lost =>
      have hlength := h.odd.mpr rfl
      rw [hqueued, hrest, List.length_append, List.length_singleton] at hlength
      omega
    | storing u =>
      have hu := (h.storing u).mpr rfl
      have hholds := (hcmd u).mp (holdsCmd_of_reconnecting (reconnecting_of_storing hu))
      have hstored := hok.2 rfl hpc hpending u hholds
      exact absurd (hstored.symm.trans hu) Bool.false_ne_true

/-- **Connection events and the connection.**  In every run in which kReconnected is
queued after every disconnect declared so far and not delivered before its attempt has
set `connected`, the delivered events alternate, and whenever kReconnected is delivered,
the Device is connected or a later disconnect has been declared. -/
theorem events_follow_connection (h : (program enabled).Reaches registered EventsInStep c) :
    Alternates c.mem.delivered ∧
      ∀ a c', EventsInStep .receive a c → (program enabled).move .receive a c = some c' →
        c'.mem.delivered = c.mem.delivered ++ [.kReconnected] →
        c.mem.connected = true ∨ c.mem.delivered.count .kDisconnected < c.mem.declared := by
  obtain ⟨p, hp⟩ := agrees h
  constructor
  · have halternates := hp.alternates
    rw [queued, List.append_assoc] at halternates
    exact halternates.of_append
  · intro a c' hok hmove hdelivered
    obtain ⟨pc, m, hstep, rfl⟩ := (program enabled).move_eq_some.mp hmove
    obtain ⟨events, hpc⟩ := receiveStep_delivers hstep hdelivered
    exact hp.reconnected (holdsCmd_iff h) hok hpc

end Delivery

/-- The receive thread is about to deliver kReconnected, and does. -/
theorem move_reconnected (enabled : Bool) {c : Config}
    (hpc : c.pc .receive = .deliver [.kReconnected]) :
    ∃ c', (program enabled).move .receive .go c = some c' ∧
      c'.mem.delivered = c.mem.delivered ++ [.kReconnected] := by
  refine ⟨_, (program enabled).move_eq_some.mpr ⟨.deliver [],
    { c.mem with delivered := c.mem.delivered ++ [.kReconnected] }, ?_, rfl⟩, rfl⟩
  rw [hpc]
  rfl

/-- A push timeout, `steps` steps of the worker, and a tick up to its first delivery. -/
def reconnectedAfter (steps : ℕ) : List (Thread × Move) :=
  [(.owner, .go), (.receive, .refresh), (.receive, .tick), (.receive, .timesOut)] ++
    List.replicate 10 (.receive, .go) ++ List.replicate steps (.worker, .go) ++
    (.receive, .tick) :: List.replicate 4 (.receive, .go)

theorem events_follow_connection_reconnected :
    ∃ c c', (program true).Reaches registered EventsInStep c ∧
      (program true).move .receive .go c = some c' ∧
      c'.mem.delivered = c.mem.delivered ++ [.kReconnected] ∧ Alternates c.mem.delivered ∧
      (c.mem.connected = true ∨ c.mem.delivered.count .kDisconnected < c.mem.declared) := by
  have hallowed : (program true).Allowed EventsInStep (reconnectedAfter 23) registered := by decide
  have hrun : ((program true).exec (reconnectedAfter 23) registered).any (fun c =>
      decide (c.pc .receive = .deliver [.kReconnected] ∧ EventsInStep .receive .go c)) = true := by
    decide
  obtain ⟨c, hreach, hc⟩ := Concurrent.Reaches.of_exec hallowed hrun
  obtain ⟨hpc, hok⟩ := of_decide_eq_true hc
  obtain ⟨c', hmove, hdelivered⟩ := move_reconnected true hpc
  obtain ⟨halternates, hdelivery⟩ := events_follow_connection hreach
  exact ⟨c, c', hreach, hmove, hdelivered, halternates, hdelivery .go c' hok hmove hdelivered⟩

/-- A push timeout is declared; before its kDisconnected is queued, a caller reconnects. -/
def overtaken : List (Thread × Move) :=
  [(.owner, .go), (.receive, .refresh), (.receive, .tick), (.receive, .timesOut),
    (.receive, .go), (.user 0, .reconnect)] ++
    List.replicate 16 (.user 0, .go) ++ List.replicate 9 (.receive, .go)

/-- kReconnected can be delivered before the kDisconnected of the outage it ends, and
while the Device is still disconnected by that outage. -/
theorem events_out_of_step :
    (∃ c, (program true).Reaches registered anyMove c ∧
      c.mem.delivered = [.kReconnected, .kDisconnected] ∧ ¬Alternates c.mem.delivered) ∧
    ∃ c c', (program true).Reaches registered anyMove c ∧
      (program true).move .receive .go c = some c' ∧
      c'.mem.delivered = c.mem.delivered ++ [.kReconnected] ∧ c.mem.connected = false ∧
      ¬c.mem.delivered.count .kDisconnected < c.mem.declared := by
  constructor
  · have hrun : ((program true).exec overtaken registered).any (fun c =>
        decide (c.mem.delivered = [.kReconnected, .kDisconnected])) = true := by decide
    obtain ⟨c, hreach, hc⟩ := Concurrent.Reaches.of_exec (Concurrent.allowed_anyMove _ _) hrun
    have hdelivered := of_decide_eq_true hc
    refine ⟨c, hreach, hdelivered, fun halternates => ?_⟩
    exact absurd (halternates 0 .kReconnected (by rw [hdelivered]; rfl)) nofun
  · have hrun : ((program true).exec (reconnectedAfter 20) registered).any (fun c =>
        decide (c.pc .receive = .deliver [.kReconnected] ∧ c.mem.connected = false ∧
          ¬c.mem.delivered.count .kDisconnected < c.mem.declared)) = true := by decide
    obtain ⟨c, hreach, hc⟩ := Concurrent.Reaches.of_exec (Concurrent.allowed_anyMove _ _) hrun
    obtain ⟨hpc, hlater⟩ := of_decide_eq_true hc
    obtain ⟨c', hmove, hdelivered⟩ := move_reconnected true hpc
    exact ⟨c, c', hreach, hmove, hdelivered, hlater⟩

end LivoxMid360.Device
