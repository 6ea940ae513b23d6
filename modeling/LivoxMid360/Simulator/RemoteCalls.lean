import LivoxMid360.Session.Attribution
import LivoxMid360.Simulator.Commands

/-!
# A Session and the simulator

The two sides together: a Session (`CommandSession.program`), the simulator, and between
them a network that delivers each transmission of the Session any number of times, in any
order, or never, and the ACKs likewise.  Other hosts may send to the simulator too, and lines
may come in on its control channel.

Every step of this system is a step of the Session with *some* LiDAR (`session_reaches`), so
what was proved there holds here.  What is new is what the LiDAR has done: `executed` lists
the datagrams of this Session that the simulator has handled, each with the state before and
after.  It is history and not in the code.  `Witnessed` is the invariant: every datagram on
its way to the Session comes from one of these executions, and what was accepted for a
request from one that took place while the request was open.
-/

namespace LivoxMid360

open LittleEndian RequestReply

namespace CommandSession

/-! ## Typed requests -/

def toConfigAck (ack : RawAck) : Except RequestError ParamConfigAck :=
  match parseParamConfigAck ack.data with
  | .error e => .error (badResponse e ack.cmdId 0)
  | .ok a =>
    if a.retCode ≠ .kSuccess ∧ a.retCode ≠ .kParamRebootEffect then
      .error (rejected a.retCode a.errorKey ack.cmdId 0)
    else .ok a

/-- What a typed request sends, and what it makes of the ACK; `none` where reading the ACK
terminates the process. -/
structure TypedRequest (α : Type) where
  cmdId : UInt16
  data : List UInt8
  result : RawAck → Option (Except RequestError α)

/-- `Session::configure`. -/
def configure (kvs : List KeyValue) : TypedRequest ParamConfigAck :=
  ⟨kParamConfig, encodeParamConfigRequest kvs, fun ack => some (toConfigAck ack)⟩

/-- `Session::inquire`. -/
def inquire (keys : List UInt16) : TypedRequest InquireResult :=
  ⟨kParamInquire, encodeParamInquireRequest keys, fun ack => toInquireResult ack keys⟩

theorem toConfigAck_bytes {ack : RawAck} {ret : RetCode} {key : UInt16}
    (h : ack.data = encodeLe ret.raw ++ encodeLe key) :
    toConfigAck ack =
      if ret ≠ .kSuccess ∧ ret ≠ .kParamRebootEffect then .error (rejected ret key ack.cmdId 0)
      else .ok ⟨ret, key⟩ := by
  have hparse := parseParamConfigAck_bytes ret.raw key []
  rw [List.append_nil] at hparse
  rw [toConfigAck, h, hparse]

theorem toInquireResult_bytes {ack : RawAck} {ret : RetCode} {kvs : List KeyValue}
    {requested : List UInt16} (hcount : kvs.length < 0x10000)
    (hvalues : ∀ kv ∈ kvs, kv.value.length < 0x10000) (h : ack.data = encodeLe ret.raw ++
      (encodeLe (UInt16.ofNat kvs.length) ++ kvs.flatMap KeyValue.bytes)) :
    toInquireResult ack requested =
      some (if ret ≠ .kSuccess then
        .error (rejected ret (rejectedKey ⟨ret, kvs⟩ requested) ack.cmdId 0)
      else .ok ⟨ret, kvs, ack.data⟩) := by
  rw [toInquireResult, h, parseParamInquireAck_bytes hcount hvalues, Option.map_some]

/-! ## One request at a time -/

open Log (Change)

/-- As many requests have returned as were made, apart from the open one, which is the
last. -/
structure Sequential (call : Option Call) (x : Log) : Prop where
  closed : call = none → x.exchange.requests.length = x.returned.length
  opened : ∀ c, call = some c →
    x.exchange.requests.length = x.returned.length + 1 ∧ c.index = x.returned.length

theorem Sequential.change {call call' : Option Call} {x x' : Log} (h : Sequential call x)
    (hchange : Change call x call' x') : Sequential call' x' := by
  have hbegin : ∀ (x : Log) (spec : CommandFrameSpec),
      (x.begin spec).exchange.requests.length = x.exchange.requests.length + 1 :=
    fun x spec => List.length_append
  have hsettle : ∀ (x : Log) (k : ℕ) (r : Except RequestError RawAck),
      (x.settle k r).returned.length = x.returned.length + 1 :=
    fun x k r => List.length_append
  have hended : ∀ x' : Log, x'.exchange.requests.length = x'.returned.length →
      Sequential none x' :=
    fun x' hx' => ⟨fun _ => hx', by intro c hc; cases hc⟩
  cases hchange with
  | answered | injected => exact ⟨h.closed, h.opened⟩
  | caller hcaller =>
    cases hcaller with
    | @begins _ call fresh =>
      have hclosed := h.closed rfl
      refine ⟨(by intro hc; cases hc), fun c hc => ?_⟩
      cases hc
      refine ⟨?_, fresh.trans hclosed⟩
      rw [hbegin, hclosed]
      rfl
    | refuses =>
      refine hended _ ?_
      rw [hsettle]
      exact (hbegin ..).trans (congrArg (· + 1) (h.closed rfl))
    | fails _ call | @accepts _ call =>
      refine hended _ ?_
      rw [hsettle]
      exact (h.opened call rfl).1
    | _ => exact ⟨h.closed, h.opened⟩

/-- Everything has been taken in the order in which it was asked for. -/
theorem Sequential.of_reaches {lidar : Endpoint} {options : SessionOptions}
    {c : Concurrent.Config Actor.Local Memory}
    (h : (program lidar options).Reaches CommandSession.opened Concurrent.anyMove c) :
    Sequential (Pc.call (c.pc .caller)) c.mem.toLog := by
  refine h.induction (I := fun c => Sequential (Pc.call (c.pc .caller)) c.mem.toLog)
    ⟨fun _ => rfl, by intro c hc; cases hc⟩ ?_
  intro t a c l m _ ih _ hstep
  exact ih.change (change_of_step hstep)

/-- The datagrams on their way to the Session. -/
def Memory.inbound (m : Memory) : List (Inbound (List UInt8) Datagram) :=
  m.exchange.inbound

end CommandSession

/-! ## The system -/

namespace RemoteCalls

open CommandSession Simulator
open Simulator.Sim (Event Sent takes readingsAt switchedOn)
open Concurrent (anyMove)

variable {Time : Type} [Add Time] [LinearOrder Time]

/-- A datagram of the Session that the simulator has handled: the transmission, how many
requests of the Session had returned by then, and what the simulator did. -/
structure Execution (Time : Type) where
  transmission : Transmission (List UInt8)
  finished : ℕ
  before : Sim Time
  readings : Readings Time
  after : Sim Time
  ack : Option (List UInt8)

structure World (Time : Type) where
  session : Concurrent.Config Actor.Local Memory := opened
  sim : Sim Time
  executed : List (Execution Time) := []

/-- Who is at the ends: the LiDAR as the Session knows it, and the address of the host. -/
structure Setup (Time : Type) where
  args : Args Time
  lidar : Endpoint
  host : Endpoint
  options : SessionOptions := {}

/-- What may happen next. -/
inductive Move (Time : Type) where
  /-- The thread that calls the Session, or one that cancels the call. -/
  | session (t : Actor) (a : CommandSession.Move)
  /-- The transmission `i` reaches the simulator. -/
  | arrives (i : ℕ) (r : Readings Time)
  /-- A datagram that is no ACK is on its way to the Session. -/
  | strays (bytes : List UInt8) (sender : Endpoint)
  /-- The simulator handles something that does not come from this Session. -/
  | lidar (e : Event Time) (r : Readings Time)

namespace World

/-- The Session's memory once an ACK of the simulator is on its way. -/
def replied (setup : Setup Time) (w : World Time) (tr : Transmission (List UInt8))
    (ack : List UInt8) : Memory :=
  { w.session.mem with
    exchange := w.session.mem.exchange.deliver
      ⟨ack, ⟨w.sim.lidarIp, setup.lidar.port⟩⟩ (some tr) }

/-- A datagram of the simulator sets out for the Session. -/
def deliver (setup : Setup Time) (w : World Time) (tr : Transmission (List UInt8))
    (sent : Sent) : Concurrent.Config Actor.Local Memory :=
  match sent.ack with
  | none => w.session
  | some ack => { w.session with mem := w.replied setup tr ack }

/-- A step; there is none when the simulator ends with an exception. -/
def step (setup : Setup Time) (w : World Time) : Move Time → Option (World Time)
  | .session t a =>
    if t = .network then none
    else
      ((program setup.lidar setup.options).move t a w.session).map fun c =>
        { w with session := c }
  | .arrives i r =>
    match w.session.mem.exchange.sent[i]? with
    | none => none
    | some tr =>
      match w.sim.handleDatagram setup.args .cmd tr.bytes setup.host r with
      | .error _ => none
      | .ok (sim, sent) =>
        some
          { session := w.deliver setup tr sent
            sim
            executed := w.executed ++
              [⟨tr, w.session.mem.returned.length, w.sim, r, sim, sent.ack⟩] }
  | .strays bytes sender =>
    ((program setup.lidar setup.options).move .network (.injects bytes sender)
      w.session).map fun c => { w with session := c }
  | .lidar e r =>
    match w.sim.step setup.args (e, r) with
    | .error _ => none
    | .ok (sim, _) => some { w with sim }

end World

/-- The states that are reached from a Session that has just been opened. -/
inductive Reaches (setup : Setup Time) (sim : Sim Time) : World Time → Prop
  | start : Reaches setup sim { sim }
  | step {w w' : World Time} (reached : Reaches setup sim w) (move : Move Time)
      (moved : w.step setup move = some w') : Reaches setup sim w'

/-! ## The Session in the system -/

section Session

variable {setup : Setup Time} {sim : Sim Time} {w w' : World Time}

/-- The ACKs of the simulator are answers. -/
theorem answers_of_handleDatagram {s s' : Sim Time} {args : Args Time} {port : Port}
    {spec : CommandFrameSpec} {frame ack : List UInt8} {addr : Endpoint} {r : Readings Time}
    {sent : Sent} (hframe : buildCommandFrame spec = .ok frame)
    (h : s.handleDatagram args port frame addr r = .ok (s', sent))
    (hack : sent.ack = some ack) : answers frame ack = true := by
  obtain ⟨-, o, payload, -, -, -, hbuild⟩ := Sim.handleDatagram_ack hframe h hack
  rw [answers, parseCommandFrame_of_build hframe]
  refine decide_eq_true ?_
  rw [ackKey, parseCommandFrame_of_build hbuild]
  rfl

/-- What a step does: a step of the Session, or of the network, that brings no datagram of
the LiDAR; a datagram of the Session is handled; or the simulator does something else. -/
theorem World.step_cases {move : Move Time} (h : w.step setup move = some w') :
    (∃ t a c, (program setup.lidar setup.options).move t a w.session = some c ∧
        w' = { w with session := c } ∧
        ∀ e ∈ c.mem.inbound, e ∈ w.session.mem.inbound ∨ e.origin = none) ∨
      (∃ (i : ℕ) (tr : Transmission (List UInt8)) (r : Readings Time) (s : Sim Time) (sent : Sent),
        w.session.mem.exchange.sent[i]? = some tr ∧
        w.sim.handleDatagram setup.args .cmd tr.bytes setup.host r = .ok (s, sent) ∧
        w' = ⟨w.deliver setup tr sent, s, w.executed ++
          [⟨tr, w.session.mem.returned.length, w.sim, r, s, sent.ack⟩]⟩) ∨
      ∃ s, w' = { w with sim := s } := by
  cases move with
  | session t a =>
    unfold World.step at h
    dsimp only at h
    split_ifs at h with hnetwork
    obtain ⟨c, hmove, rfl⟩ := Option.map_eq_some_iff.mp h
    refine .inl ⟨t, a, c, hmove, rfl, fun e he => .inl ?_⟩
    obtain ⟨l, m, hstep, rfl⟩ := (Concurrent.move_eq_some _).mp hmove
    cases t with
    | caller =>
      rw [Memory.inbound, ← (callerStep_change hstep).inbound]
      exact he
    | canceller =>
      obtain ⟨m', hm, hp⟩ := Option.map_eq_some_iff.mp hstep
      cases hp
      rw [Memory.inbound, ← (cancellerStep_change hm none).inbound]
      exact he
    | network => exact absurd rfl hnetwork
  | arrives i r =>
    unfold World.step at h
    dsimp only at h
    split at h
    · cases h
    · rename_i tr hsent
      split at h
      · cases h
      · rename_i s sent hhandle
        exact .inr (.inl ⟨i, tr, r, s, sent, hsent, hhandle, (Option.some.inj h).symm⟩)
  | strays =>
    obtain ⟨c, hmove, rfl⟩ := Option.map_eq_some_iff.mp h
    refine .inl ⟨.network, _, c, hmove, rfl, fun e he => ?_⟩
    obtain ⟨l, m, hstep, rfl⟩ := (Concurrent.move_eq_some _).mp hmove
    obtain ⟨m', hm, hp⟩ := Option.map_eq_some_iff.mp hstep
    cases hp
    unfold networkStep at hm
    dsimp only at hm
    split_ifs at hm
    cases hm
    rcases List.mem_append.mp he with old | new
    · exact .inl old
    · obtain rfl := List.mem_singleton.mp new
      exact .inr rfl
  | lidar =>
    unfold World.step at h
    dsimp only at h
    split at h
    · cases h
    · exact .inr (.inr ⟨_, (Option.some.inj h).symm⟩)

/-- An ACK of the simulator is a move of the network. -/
theorem World.deliver_eq {i : ℕ} {tr : Transmission (List UInt8)} {sent : Sent}
    {spec : CommandFrameSpec} {s : Sim Time} {r : Readings Time}
    (hsent : w.session.mem.exchange.sent[i]? = some tr)
    (hframe : buildCommandFrame spec = .ok tr.bytes)
    (h : w.sim.handleDatagram setup.args .cmd tr.bytes setup.host r = .ok (s, sent)) :
    w.deliver setup tr sent = w.session ∨
      ∃ a, (program setup.lidar setup.options).move .network a w.session =
        some (w.deliver setup tr sent) := by
  unfold World.deliver
  cases hack : sent.ack with
  | none => exact .inl rfl
  | some ack =>
    have hanswers := answers_of_handleDatagram hframe h hack
    refine .inr ⟨.answers i ack ⟨w.sim.lidarIp, setup.lidar.port⟩, ?_⟩
    refine (Concurrent.move_eq_some _).mpr
      ⟨w.session.pc .network, w.replied setup tr ack, ?_, ?_⟩
    · show (networkStep _ w.session.mem).map _ = _
      rw [networkStep, hsent]
      dsimp only
      rw [if_pos hanswers]
      rfl
    · rw [Function.update_eq_self]

/-- **The Session cannot tell the simulator from another LiDAR.** -/
theorem session_reaches (h : Reaches setup sim w) :
    (program setup.lidar setup.options).Reaches opened anyMove w.session := by
  induction h with
  | start => exact .start
  | @step w w' reached move moved ih =>
    obtain ⟨t, a, c, hmove, rfl, -⟩ | ⟨i, tr, r, s, sent, hsent, hhandle, rfl⟩ | ⟨s, rfl⟩ :=
      World.step_cases moved
    · exact .step ih trivial hmove
    · have hsound : Exchange.Sound codec w.session.mem.exchange :=
        Exchange.Sound.empty.run (Consistent.of_reaches ih).run
      obtain ⟨spec, -, hcodec⟩ := hsound.framed tr (List.mem_of_getElem? hsent)
      have hframe := codec_frame_eq_some_iff.mp hcodec
      obtain hsame | ⟨a, hmove⟩ := World.deliver_eq hsent hframe hhandle
      · dsimp only
        rw [hsame]
        exact ih
      · exact .step ih trivial hmove
    · exact ih

end Session

/-! ## Where an answer comes from -/

section Witnessed

variable {setup : Setup Time} {sim : Sim Time} {w w' : World Time}

/-- The execution is what the simulator does with the transmission. -/
def Execution.Valid (setup : Setup Time) (x : Execution Time) : Prop :=
  ∃ sent, x.before.handleDatagram setup.args .cmd x.transmission.bytes setup.host x.readings =
    .ok (x.after, sent) ∧ sent.ack = x.ack

/-- The answer of the `fail_cmd` rule that the request has met; the request is then not
carried out. -/
def Execution.injected (x : Execution Time) : Option (List UInt8) :=
  match Python.CommandFrame.parse x.transmission.bytes with
  | .error _ => none
  | .ok f =>
    match x.before.injectedFailure f with
    | .error _ => none
    | .ok (_, payload) => payload

omit [Add Time] [LinearOrder Time] in
theorem Execution.injected_of_build (x : Execution Time) {spec : CommandFrameSpec}
    (h : buildCommandFrame spec = .ok x.transmission.bytes) :
    x.injected =
      match x.before.injectedFailure (Python.CommandFrame.ofSpec spec) with
      | .error _ => none
      | .ok (_, payload) => payload := by
  rw [Execution.injected, Python.CommandFrame.parse_of_build h]

/-- The executions account for what has come back. -/
structure Witnessed (setup : Setup Time) (w : World Time) : Prop where
  valid : ∀ x ∈ w.executed, x.Valid setup
  sent : ∀ x ∈ w.executed, x.transmission ∈ w.session.mem.exchange.sent
  timed : ∀ x ∈ w.executed,
    x.transmission.request ≤ x.finished ∧ x.finished ≤ w.session.mem.returned.length
  inbound : ∀ e ∈ w.session.mem.inbound, ∀ tr, e.origin = some tr →
    ∃ x ∈ w.executed, x.transmission = tr ∧ x.ack = some e.datagram.bytes
  accepted : w.session.mem.exchange.requests.length < 0xFFFFFFFF →
    ∀ p ∈ w.session.mem.exchange.accepted, ∃ x ∈ w.executed,
      x.transmission.request = p.1 ∧ x.finished = p.1 ∧ x.ack = some p.2.bytes

/-- What a step of the Session leaves: requests, transmissions and results are only added,
and a datagram is accepted for the open request only. -/
structure Grows (call : Option Call) (x x' : Log) : Prop where
  returned : x.returned.length ≤ x'.returned.length
  requests : x.exchange.requests.length ≤ x'.exchange.requests.length
  sent : ∀ tr ∈ x.exchange.sent, tr ∈ x'.exchange.sent
  accepted : ∀ p ∈ x'.exchange.accepted, p ∈ x.exchange.accepted ∨
    ∃ c, call = some c ∧ p.1 = c.index

theorem grows_of_change {call call' : Option Call} {x x' : Log}
    (h : Log.Change call x call' x') : Grows call x x' := by
  cases h with
  | answered | injected =>
    exact ⟨le_rfl, le_rfl, fun _ htr => htr, fun p hp => .inl hp⟩
  | caller hcaller =>
    cases hcaller with
    | transmits =>
      exact ⟨le_rfl, le_rfl, fun _ htr => List.mem_append_left _ htr, fun p hp => .inl hp⟩
    | @accepts _ call =>
      refine ⟨by simp [Log.settle], le_rfl, fun _ htr => htr, fun p hp => ?_⟩
      rcases List.mem_append.mp hp with old | new
      · exact .inl old
      · obtain rfl := List.mem_singleton.mp new
        exact .inr ⟨call, rfl, rfl⟩
    | _ =>
      exact ⟨by simp [Log.begin, Log.settle], by simp [Log.begin, Log.settle, Exchange.begin],
        fun _ htr => htr, fun p hp => .inl hp⟩

omit [Add Time] [LinearOrder Time] in
/-- A transmission belongs to a request that has been made. -/
theorem request_le_returned {c : Concurrent.Config Actor.Local Memory}
    (h : (program setup.lidar setup.options).Reaches opened anyMove c)
    {tr : Transmission (List UInt8)} (hsent : tr ∈ c.mem.exchange.sent) :
    tr.request ≤ c.mem.returned.length := by
  have hsound : Exchange.Sound codec c.mem.exchange :=
    Exchange.Sound.empty.run (Consistent.of_reaches h).run
  obtain ⟨spec, hasked, -⟩ := hsound.framed tr hsent
  have hlt := (List.getElem?_eq_some_iff.mp hasked).1
  have hseq := Sequential.of_reaches h
  cases hcall : Pc.call (c.pc .caller) with
  | none =>
    have := hseq.closed hcall
    omega
  | some call =>
    have := (hseq.opened call hcall).1
    omega

theorem Witnessed.session (h : Witnessed setup w) {t : Actor} {a : CommandSession.Move}
    {c : Concurrent.Config Actor.Local Memory}
    (hreach : (program setup.lidar setup.options).Reaches opened anyMove w.session)
    (hmove : (program setup.lidar setup.options).move t a w.session = some c)
    (hinbound : ∀ e ∈ c.mem.inbound, e ∈ w.session.mem.inbound ∨ e.origin = none) :
    Witnessed setup { w with session := c } := by
  have hgrows : Grows (Pc.call (w.session.pc .caller)) w.session.mem.toLog c.mem.toLog := by
    obtain ⟨l, m, hstep, rfl⟩ := (Concurrent.move_eq_some _).mp hmove
    exact grows_of_change (change_of_step hstep)
  -- a datagram that names a transmission was there before
  have hold : ∀ e ∈ c.mem.inbound, ∀ tr, e.origin = some tr →
      ∃ x ∈ w.executed, x.transmission = tr ∧ x.ack = some e.datagram.bytes := by
    intro e he tr htr
    rcases hinbound e he with old | hnone
    · exact h.inbound e old tr htr
    · rw [hnone] at htr
      cases htr
  refine ⟨h.valid, fun x hx => hgrows.sent _ (h.sent x hx), fun x hx => ?_, hold,
    fun few p hp => ?_⟩
  · obtain ⟨hge, hle⟩ := h.timed x hx
    exact ⟨hge, hle.trans hgrows.returned⟩
  · rcases hgrows.accepted p hp with old | ⟨call, hcall, hindex⟩
    · exact h.accepted (lt_of_le_of_lt hgrows.requests few) p old
    · have hconsistent := Consistent.of_reaches (hreach.step trivial hmove)
      have hsound : Exchange.Sound codec c.mem.exchange := Exchange.Sound.empty.run hconsistent.run
      obtain ⟨tr, -, hk, -, arrived⟩ := hsound.attributed (hconsistent.key_nodup few) hp
      obtain ⟨x, hx, rfl, hack⟩ := hold _ arrived tr rfl
      obtain ⟨hge, hle⟩ := h.timed x hx
      -- the request is still open, so no more than its predecessors have returned
      have hopen := ((Sequential.of_reaches hreach).opened call hcall).2
      refine ⟨x, hx, hk, ?_, hack⟩
      change p.1 = call.index at hindex
      change call.index = w.session.mem.returned.length at hopen
      omega

theorem Witnessed.arrives (h : Witnessed setup w) {i : ℕ} {tr : Transmission (List UInt8)}
    {r : Readings Time} {s : Sim Time} {sent : Sent}
    (hreach : (program setup.lidar setup.options).Reaches opened anyMove w.session)
    (hsent : w.session.mem.exchange.sent[i]? = some tr)
    (hhandle : w.sim.handleDatagram setup.args .cmd tr.bytes setup.host r = .ok (s, sent)) :
    Witnessed setup ⟨w.deliver setup tr sent, s, w.executed ++
      [⟨tr, w.session.mem.returned.length, w.sim, r, s, sent.ack⟩]⟩ := by
  have hkept : (w.deliver setup tr sent).mem.returned = w.session.mem.returned ∧
      (w.deliver setup tr sent).mem.exchange.requests = w.session.mem.exchange.requests ∧
      (w.deliver setup tr sent).mem.exchange.sent = w.session.mem.exchange.sent ∧
      (w.deliver setup tr sent).mem.exchange.accepted = w.session.mem.exchange.accepted := by
    unfold World.deliver
    split <;> exact ⟨rfl, rfl, rfl, rfl⟩
  have hinbound : ∀ e ∈ (w.deliver setup tr sent).mem.inbound, e ∈ w.session.mem.inbound ∨
      e.origin = some tr ∧ sent.ack = some e.datagram.bytes := by
    intro e he
    unfold World.deliver at he
    split at he
    · exact .inl he
    · rename_i ack hack
      rcases List.mem_append.mp he with old | new
      · exact .inl old
      · obtain rfl := List.mem_singleton.mp new
        exact .inr ⟨rfl, hack⟩
  obtain ⟨hreturned, hrequests, htransmitted, haccepted⟩ := hkept
  have hnew : ∀ P : Execution Time → Prop, (∀ x ∈ w.executed, P x) →
      P ⟨tr, w.session.mem.returned.length, w.sim, r, s, sent.ack⟩ → ∀ x ∈ w.executed ++
        [⟨tr, w.session.mem.returned.length, w.sim, r, s, sent.ack⟩], P x :=
    fun P old new => List.forall_mem_append.mpr ⟨old, List.forall_mem_singleton.mpr new⟩
  refine ⟨?_, ?_, ?_, fun e he tr' htr' => ?_, fun few p hp => ?_⟩
  · exact hnew _ h.valid ⟨sent, hhandle, rfl⟩
  · dsimp only
    rw [htransmitted]
    exact hnew _ h.sent (List.mem_of_getElem? hsent)
  · dsimp only
    rw [hreturned]
    exact hnew _ h.timed ⟨request_le_returned hreach (List.mem_of_getElem? hsent), le_rfl⟩
  · rcases hinbound e he with old | ⟨horigin, hack⟩
    · obtain ⟨x, hx, hrest⟩ := h.inbound e old tr' htr'
      exact ⟨x, List.mem_append_left _ hx, hrest⟩
    · rw [horigin] at htr'
      obtain rfl := Option.some.inj htr'
      exact ⟨_, List.mem_append_right _ (List.mem_singleton.mpr rfl), rfl, hack⟩
  · dsimp only at few hp
    rw [hrequests] at few
    rw [haccepted] at hp
    obtain ⟨x, hx, hrest⟩ := h.accepted few p hp
    exact ⟨x, List.mem_append_left _ hx, hrest⟩

/-- **The executions account for everything that has come back**, at any time. -/
theorem Witnessed.of_reaches (h : Reaches setup sim w) : Witnessed setup w := by
  induction h with
  | start =>
    exact ⟨by simp, by simp, by simp, (by intro e he; cases he), by intro _ p hp; cases hp⟩
  | @step w w' reached move moved ih =>
    have hreach := session_reaches reached
    obtain ⟨t, a, c, hmove, rfl, hinbound⟩ | ⟨i, tr, r, s, sent, hsent, hhandle, rfl⟩ |
      ⟨s, rfl⟩ := World.step_cases moved
    · exact ih.session hreach hmove hinbound
    · exact ih.arrives hreach hsent hhandle
    · exact ⟨ih.valid, ih.sent, ih.timed, ih.inbound, ih.accepted⟩

theorem data_length_le {spec : CommandFrameSpec} {frame : List UInt8}
    (h : buildCommandFrame spec = .ok frame) : spec.data.length ≤ 1376 := by
  rw [buildCommandFrame_eq] at h
  split_ifs at h with hsize
  exact hsize

/-- **A result comes from an execution of its own request, during the call**: the ACK is that
of a `fail_cmd` rule, which leaves the device alone, or that of the dispatched request. -/
theorem answered_by_execution (h : Reaches setup sim w)
    (few : w.session.mem.exchange.requests.length < 0xFFFFFFFF) {k : ℕ} {ack : RawAck}
    (hk : (k, .ok ack) ∈ w.session.mem.returned) {spec : CommandFrameSpec}
    (hspec : w.session.mem.exchange.requests[k]? = some spec) :
    spec.data.length ≤ 1376 ∧
    ∃ x ∈ w.executed, x.Valid setup ∧ x.transmission.request = k ∧ x.finished = k ∧
      (x.injected = some ack.data ∧ x.after.toCore = x.before.toCore ∨
        x.injected = none ∧ ∃ (s : Sim Time) (o : Sim.Outcome Time), s.toCore = x.before.toCore ∧
          s.dispatch setup.args (Python.CommandFrame.ofSpec spec) setup.host x.readings = .ok o ∧
          o.payload = some ack.data ∧ x.after.toCore = o.sim.toCore) := by
  have hconsistent := Consistent.of_reaches (session_reaches h)
  have hsound : Exchange.Sound codec w.session.mem.exchange :=
    Exchange.Sound.empty.run hconsistent.run
  have hwitnessed := Witnessed.of_reaches h
  obtain ⟨d, view, haccepted, hparse, hdata⟩ := hconsistent.returned hk
  obtain ⟨x, hx, hrequest, hfinished, hack⟩ := hwitnessed.accepted few _ haccepted
  obtain ⟨sent, hhandle, hsent⟩ := hwitnessed.valid x hx
  -- all transmissions of the request are its frame
  obtain ⟨spec', hasked, hcodec⟩ := hsound.framed _ (hwitnessed.sent x hx)
  rw [hrequest, hspec] at hasked
  cases hasked
  have hframe := codec_frame_eq_some_iff.mp hcodec
  obtain ⟨-, o, payload, hanswer, hpayload, hcore, hbuild⟩ :=
    Sim.handleDatagram_ack hframe hhandle (hsent.trans hack)
  have hview := hparse.symm.trans (parseCommandFrame_of_build hbuild)
  cases hview
  change payload = ack.data at hdata
  subst hdata
  refine ⟨data_length_le hframe, x, hx, hwitnessed.valid x hx, hrequest, hfinished, ?_⟩
  rw [x.injected_of_build hframe]
  obtain ⟨s, payload, hfail, hp, hsame⟩ | ⟨s, hfail, hsame, hdispatch⟩ := Sim.answer_cases hanswer
  · rw [hfail]
    exact .inl ⟨hp.symm.trans hpayload, hcore.trans hsame⟩
  · rw [hfail]
    exact .inr ⟨rfl, s, o, hsame, hdispatch, hpayload, hcore⟩

end Witnessed

/-! ## Typed requests -/

variable {setup : Setup Time} {sim : Sim Time} {w : World Time}

/-- The request `k` of the Session was this one. -/
def Asked {α : Type} (w : World Time) (k : ℕ) (request : TypedRequest α) : Prop :=
  ∃ spec, w.session.mem.exchange.requests[k]? = some spec ∧ spec.cmdId = request.cmdId ∧
    spec.data = request.data

/-! ## A run -/

/-- Play a schedule. -/
def World.exec (setup : Setup Time) : List (Move Time) → World Time → Option (World Time)
  | [], w => some w
  | move :: moves, w => (w.step setup move).bind (World.exec setup moves)

theorem Reaches.exec {w' : World Time} (h : Reaches setup sim w) {moves : List (Move Time)}
    (hexec : w.exec setup moves = some w') : Reaches setup sim w' := by
  induction moves generalizing w with
  | nil =>
    cases hexec
    exact h
  | cons move moves ih =>
    obtain ⟨next, hstep, hrest⟩ := Option.bind_eq_some_iff.mp hexec
    exact ih (h.step move hstep) hrest

/-- What is seen at the end of a schedule. -/
theorem Reaches.exists_of_exec (moves : List (Move Time)) {P : World Time → Prop}
    [DecidablePred P] (h : (World.exec setup moves { sim }).any (fun w => P w) = true) :
    ∃ w, Reaches setup sim w ∧ P w := by
  obtain ⟨w, hexec, hw⟩ := (Option.any_eq_true _ _).mp h
  exact ⟨w, Reaches.start.exec hexec, of_decide_eq_true hw⟩

/-- A simulator, and a host beside it. -/
def onOneLink : Setup ℕ where
  args := Sim.someArgs
  lidar := ⟨⟨192, 168, 1, 40⟩, 56100⟩
  host := ⟨⟨192, 168, 1, 5⟩, 40000⟩

/-- An entry that turns the IMU on. -/
def imuOn : List KeyValue :=
  [⟨0x001C, [1]⟩]

/-- The first transmission of a write is lost, the second one arrives twice; then the state
is read, and the second ACK of the write is late. -/
def retriedWrite : List (Move ℕ) :=
  let caller : CommandSession.Move → Move ℕ := .session .caller
  let write := configure imuOn
  let read := inquire [0x8006]
  [caller (.request write.cmdId write.data none), caller .proceeds, caller .proceeds,
    caller .timesOut, caller .proceeds, caller .proceeds,
    .arrives 1 (readingsAt 3), .lidar .turn (readingsAt 4), .arrives 1 (readingsAt 4),
    caller (.wakes true), caller .proceeds, caller (.takes 0),
    caller (.request read.cmdId read.data none), caller .proceeds, caller .proceeds,
    .arrives 2 (readingsAt 5), caller (.wakes true), caller .proceeds, caller (.takes 1),
    caller (.takes 2)]

/-- What it leads to. -/
theorem exec_retriedWrite : ∃ w, Reaches onOneLink switchedOn w ∧
    w.session.mem.acks =
      [(0, ⟨kParamConfig, 1, [0, 0, 0]⟩), (1, ⟨kParamInquire, 2, [0, 1, 0, 6, 128, 1, 0, 6]⟩)] ∧
    (w.session.mem.exchange.requests.map fun spec => (spec.cmdId, spec.data)) =
      [((configure imuOn).cmdId, (configure imuOn).data),
        ((inquire [0x8006]).cmdId, (inquire [0x8006]).data)] ∧
    (∀ x ∈ w.executed, x.injected = none) ∧
    w.session.mem.exchange.requests.length < 0xFFFFFFFF :=
  Reaches.exists_of_exec retriedWrite (by decide +kernel)

/-- A request that is found in the list of the requests. -/
theorem asked_of_map {w : World ℕ} {α : Type} {request : TypedRequest α} {k : ℕ}
    (h : (w.session.mem.exchange.requests.map fun spec => (spec.cmdId, spec.data))[k]? =
      some (request.cmdId, request.data)) : Asked w k request := by
  rw [List.getElem?_map] at h
  obtain ⟨spec, hspec, heq⟩ := Option.map_eq_some_iff.mp h
  obtain ⟨hcmd, hdata⟩ := Prod.mk.inj heq
  exact ⟨spec, hspec, hcmd, hdata⟩

/-! ## Results -/

/-- **What a Session reads is what was there.**  When `Session::inquire` has got an ACK, the
simulator has taken this very request between the call and the return (and not an earlier or
a later one), and the device is left as it was.  The ACK is the answer of a `fail_cmd` rule,
or the result is what `DeviceModel.inquire` answered then, from the state at that moment. -/
theorem inquire_linearizable (h : Reaches setup sim w)
    (few : w.session.mem.exchange.requests.length < 0xFFFFFFFF) {k : ℕ} {ack : RawAck}
    (hk : (k, .ok ack) ∈ w.session.mem.returned) {keys : List UInt16}
    (hasked : Asked w k (inquire keys)) :
    ∃ x ∈ w.executed, x.Valid setup ∧ x.transmission.request = k ∧ x.finished = k ∧
      x.after.toCore = x.before.toCore ∧
      (x.injected = some ack.data ∨
        x.injected = none ∧ ∃ ret kvs,
          x.before.model.inquire (keys.map UInt16.toNat) x.readings.nowNs =
            .ok (ret, pairs kvs) ∧
          (inquire keys).result ack =
            some (if ret ≠ .kSuccess then
              .error (CommandSession.rejected ret (rejectedKey ⟨ret, kvs⟩ keys) ack.cmdId 0)
            else .ok ⟨ret, kvs, ack.data⟩)) := by
  obtain ⟨spec, hspec, hcmd, hdata⟩ := hasked
  obtain ⟨hlength, x, hx, hvalid, hrequest, hfinished, ⟨hfail, hsame⟩ |
    ⟨hfail, s, o, hsame, hdispatch, hpayload, hcore⟩⟩ := answered_by_execution h few hk hspec
  · exact ⟨x, hx, hvalid, hrequest, hfinished, hsame, .inl hfail⟩
  have hcount : keys.length < 0x10000 := by
    rw [hdata] at hlength
    change (encodeParamInquireRequest keys).length ≤ 1376 at hlength
    rw [encodeParamInquireRequest_length] at hlength
    omega
  obtain ⟨hsim, ret, kvs, hinquire, hkvs, hvalues, hbytes⟩ :=
    Sim.dispatch_inquire hcmd hdata hcount hdispatch
  refine ⟨x, hx, hvalid, hrequest, hfinished, by rw [hcore, hsim, hsame],
    .inr ⟨hfail, ret, kvs, ?_, ?_⟩⟩
  · rw [← congrArg Core.model hsame]
    exact hinquire
  · have hack : ack.data = encodeLe ret.raw ++
        (encodeLe (UInt16.ofNat kvs.length) ++ kvs.flatMap KeyValue.bytes) :=
      Option.some.inj (hpayload.symm.trans hbytes)
    exact toInquireResult_bytes hkvs hvalues hack

/-- The work state, read while the ACK of an earlier request is still on its way. -/
theorem inquire_linearizable_retriedWrite :
    ∃ w : World ℕ, Reaches onOneLink switchedOn w ∧ Asked w 1 (inquire [0x8006]) ∧
      ∃ x ∈ w.executed, x.Valid onOneLink ∧ x.transmission.request = 1 ∧ x.finished = 1 ∧
        x.after.toCore = x.before.toCore ∧
        x.before.model.inquire [0x8006] x.readings.nowNs = .ok (.kSuccess, [(0x8006, [6])]) := by
  obtain ⟨w, hreach, hacks, hrequests, hnone, few⟩ := exec_retriedWrite
  have hasked : Asked w 1 (inquire [0x8006]) := asked_of_map (by rw [hrequests]; rfl)
  have hk : (1, .ok ⟨kParamInquire, 2, [0, 1, 0, 6, 128, 1, 0, 6]⟩) ∈ w.session.mem.returned :=
    Log.returned_of_mem_acks (by rw [hacks]; simp)
  obtain ⟨x, hx, hvalid, hrequest, hfinished, hsame, hinjected | ⟨-, ret, kvs, hinquire,
    hresult⟩⟩ := inquire_linearizable hreach few hk hasked
  · rw [hnone x hx] at hinjected
    cases hinjected
  refine ⟨w, hreach, hasked, x, hx, hvalid, hrequest, hfinished, hsame, hinquire.trans ?_⟩
  -- the result that was returned says which answer it was
  have hread : (inquire [0x8006]).result ⟨kParamInquire, 2, [0, 1, 0, 6, 128, 1, 0, 6]⟩ =
      some (.ok ⟨.kSuccess, [⟨0x8006, [6]⟩], [0, 1, 0, 6, 128, 1, 0, 6]⟩) := by decide
  rw [hread] at hresult
  split_ifs at hresult with hret
  · cases hresult
  · cases hresult
    rfl

/-- **What a Session writes is written, and what it is refused is not.**  When
`Session::configure` has got an ACK, the simulator has taken this very request between the
call and the return.  The ACK is the answer of a `fail_cmd` rule, and nothing has been
changed; or the result is a success, and all entries have been written into the table in
their order; or it is an error, and nothing has been changed. -/
theorem configure_linearizable (h : Reaches setup sim w)
    (few : w.session.mem.exchange.requests.length < 0xFFFFFFFF) {k : ℕ} {ack : RawAck}
    (hk : (k, .ok ack) ∈ w.session.mem.returned) {kvs : List KeyValue}
    (hasked : Asked w k (configure kvs)) :
    ∃ x ∈ w.executed, x.Valid setup ∧ x.transmission.request = k ∧ x.finished = k ∧
      (x.injected = some ack.data ∧ x.after.toCore = x.before.toCore ∨
        x.injected = none ∧
          ((∃ ret, (configure kvs).result ack = some (.ok ⟨ret, 0⟩) ∧
            x.after.model.settings.get = (pairs kvs).foldl put x.before.model.settings.get) ∨
          ∃ ret key, (configure kvs).result ack =
              some (.error (CommandSession.rejected ret key ack.cmdId 0)) ∧
            x.after.toCore = x.before.toCore)) := by
  obtain ⟨spec, hspec, hcmd, hdata⟩ := hasked
  obtain ⟨hlength, x, hx, hvalid, hrequest, hfinished, hfail |
    ⟨hfail, s, o, hsame, hdispatch, hpayload, hcore⟩⟩ := answered_by_execution h few hk hspec
  · exact ⟨x, hx, hvalid, hrequest, hfinished, .inl hfail⟩
  rw [hdata] at hlength
  change (encodeParamConfigRequest kvs).length ≤ 1376 at hlength
  rw [encodeParamConfigRequest_length] at hlength
  have hcount : kvs.length < 0x10000 := by
    have := four_mul_length_le_kvListSize kvs
    omega
  have hvalues : ∀ kv ∈ kvs, kv.value.length < 0x10000 := by
    intro kv hkv
    have := value_length_le_kvListSize hkv
    omega
  obtain ⟨hsim, ret, key, hret, hbytes⟩ :=
    Sim.dispatch_configure hcmd hdata hcount hvalues hdispatch
  have hack : ack.data = encodeLe ret.raw ++ encodeLe key :=
    Option.some.inj (hpayload.symm.trans hbytes)
  have hresult : (configure kvs).result ack = some (toConfigAck ack) := rfl
  refine ⟨x, hx, hvalid, hrequest, hfinished, .inr ⟨hfail, ?_⟩⟩
  rw [hresult, toConfigAck_bytes hack, hcore, hsim, Sim.withModel_toCore, ← hsame]
  rcases DeviceModel.configure_ret s.model (pairs kvs) x.readings.now with
    ⟨hcode, hkey, hwritten⟩ | ⟨hcode, hunchanged⟩
  · rw [hret] at hcode hkey
    left
    have haccepted : ¬(ret ≠ .kSuccess ∧ ret ≠ .kParamRebootEffect) := by
      rintro ⟨hok, hreboot⟩
      rcases hcode with rfl | rfl
      · exact hok rfl
      · exact hreboot rfl
    have hzero : key = 0 := UInt16.toNat_inj.mp hkey
    exact ⟨ret, by rw [if_neg haccepted, hzero], hwritten⟩
  · rw [hret] at hcode
    right
    have hrejected : ret ≠ .kSuccess ∧ ret ≠ .kParamRebootEffect := by
      have hall : ∀ c ∈ [RET_PARAM_NOT_SUPPORT, RET_PARAM_INVALID_LEN, RET_OUT_OF_RANGE,
          RET_NOT_PERMIT_NOW], c ≠ .kSuccess ∧ c ≠ .kParamRebootEffect := by decide
      exact hall ret hcode
    exact ⟨ret, key, by rw [if_pos hrejected], by rw [hunchanged]⟩

/-- The write that was sent twice. -/
theorem configure_linearizable_retriedWrite :
    ∃ w : World ℕ, Reaches onOneLink switchedOn w ∧ Asked w 0 (configure imuOn) ∧
      ∃ x ∈ w.executed, x.Valid onOneLink ∧ x.transmission.request = 0 ∧ x.finished = 0 ∧
        (configure imuOn).result ⟨kParamConfig, 1, [0, 0, 0]⟩ = some (.ok ⟨.kSuccess, 0⟩) ∧
        x.after.model.settings.get = (pairs imuOn).foldl put x.before.model.settings.get := by
  obtain ⟨w, hreach, hacks, hrequests, hnone, few⟩ := exec_retriedWrite
  have hasked : Asked w 0 (configure imuOn) := asked_of_map (by rw [hrequests]; rfl)
  have hk : (0, .ok ⟨kParamConfig, 1, [0, 0, 0]⟩) ∈ w.session.mem.returned :=
    Log.returned_of_mem_acks (by rw [hacks]; simp)
  have hread : (configure imuOn).result ⟨kParamConfig, 1, [0, 0, 0]⟩ =
      some (.ok ⟨.kSuccess, 0⟩) := by decide
  obtain ⟨x, hx, hvalid, hrequest, hfinished, ⟨hinjected, -⟩ | ⟨-, ⟨-, -, hwritten⟩ |
    ⟨ret, key, hresult, -⟩⟩⟩ := configure_linearizable hreach few hk hasked
  · rw [hnone x hx] at hinjected
    cases hinjected
  · exact ⟨w, hreach, hasked, x, hx, hvalid, hrequest, hfinished, hread, hwritten⟩
  · rw [hread] at hresult
    cases hresult

end RemoteCalls

end LivoxMid360
