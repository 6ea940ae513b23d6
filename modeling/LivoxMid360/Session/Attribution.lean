import LivoxMid360.Protocol.Requests
import LivoxMid360.Session

/-!
# An ACK belongs to its request

A late ACK of an earlier request may arrive during any later one.  It is told apart by its
sequence number, so the Session relies on the numbers being distinct; retries reuse the
number of their request, and an ACK to any of its transmissions is welcome.

* `seqAt k` is the sequence number of the request `k`, over any number of requests; it
  skips 0 when it wraps (`seqAt_succ`) and does not repeat below `2 ^ 32 - 1` requests
  (`seqAt_inj`).
* `codec` makes the frames and the ACKs an instance of `RequestReply`.  `recv_one` may cut
  a datagram off, which cannot turn it into an ACK (`CommandFrameAccepted.of_take`).
* `Log.Change` are the ways in which a step changes the history and the open request, and
  `change_of_step` says that there are no others.
* `Consistent` is kept by each of them: the history is a run of the `Exchange`, and what
  `request` has returned was accepted in it.

`ack_attributed` is the result.
-/

namespace LivoxMid360

open LittleEndian RequestReply

/-- A frame is accepted as well when more bytes follow it. -/
theorem CommandFrameAccepted.of_take {frame : List UInt8} {n : ℕ} {v : CommandFrameView}
    (hn : kCommandFrameMaxSize ≤ n) (h : CommandFrameAccepted (frame.take n) v) :
    CommandFrameAccepted frame v := by
  have hheader : readCommandHeader (frame.take n) = readCommandHeader frame := by
    simp only [kCommandFrameMaxSize] at hn
    simp only [readCommandHeader]
    rw [readLe_take, readLe_take, readLe_take, readLe_take, readLe_take, slice_take, readLe_take,
      readLe_take] <;> simp <;> omega
  have hle : (frame.take n).length ≤ frame.length := List.length_take_le' n frame
  have hlength := h.length_le
  simp only [kCommandFrameMaxSize] at hn hlength
  exact {
    header_fits := h.header_fits.trans hle
    sof := by rw [← h.sof, readLe_take (by simp; omega)]
    version := by rw [← h.version, readLe_take (by simp; omega)]
    header_eq := h.header_eq.trans hheader
    length_ge := h.length_ge
    length_le := h.length_le
    length_fits := h.length_fits.trans hle
    crc16 := by rw [← h.crc16, List.take_take, Nat.min_eq_left (by omega)]
    data_eq := by
      have hge := h.length_ge
      rw [h.data_eq, slice_take (by simp only [kCommandHeaderSize] at hge ⊢; omega)]
    crc32 := h.crc32 }

namespace CommandSession

open Concurrent (anyMove)

/-! ## Sequence numbers -/

/-- The sequence number of the request `k`: from 1 on, and from 1 again after the last. -/
def seqAt (k : ℕ) : UInt32 :=
  UInt32.ofNat (k % (2 ^ 32 - 1) + 1)

theorem seqAt_toNat (k : ℕ) : (seqAt k).toNat = k % (2 ^ 32 - 1) + 1 := by
  apply UInt32.toNat_ofNat_of_lt
  have := Nat.mod_lt k (show 2 ^ 32 - 1 > 0 by norm_num)
  simp only [UInt32.size]
  omega

theorem seqAt_ne_zero (k : ℕ) : seqAt k ≠ 0 := by
  intro h
  have hnat := seqAt_toNat k
  rw [h] at hnat
  simp at hnat

/-- `next_seq_++`, and 1 instead of 0. -/
theorem seqAt_succ (k : ℕ) : seqAt (k + 1) = if seqAt k + 1 = 0 then 1 else seqAt k + 1 := by
  have hk := seqAt_toNat k
  have hsucc := seqAt_toNat (k + 1)
  have hadd : (seqAt k + 1).toNat = (k % (2 ^ 32 - 1) + 1 + 1) % 2 ^ 32 := by
    rw [UInt32.toNat_add, hk]
    rfl
  apply UInt32.toNat_inj.mp
  split_ifs with hwrap
  · rw [hwrap] at hadd
    simp only [UInt32.toNat_zero] at hadd
    rw [hsucc, UInt32.toNat_one]
    omega
  · have hne : (seqAt k + 1).toNat ≠ 0 := fun h => hwrap (UInt32.toNat_inj.mp h)
    rw [hsucc]
    omega

/-- The numbers of the first `2 ^ 32 - 1` requests are distinct. -/
theorem seqAt_inj {k k' : ℕ} (hk : k < 2 ^ 32 - 1) (hk' : k' < 2 ^ 32 - 1)
    (h : seqAt k = seqAt k') : k = k' := by
  have hnat := congrArg UInt32.toNat h
  rw [seqAt_toNat, seqAt_toNat, Nat.mod_eq_of_lt hk, Nat.mod_eq_of_lt hk'] at hnat
  omega

/-! ## Requests and ACKs -/

variable {spec : CommandFrameSpec} {frame : List UInt8}

theorem parseCommandFrame_of_build (h : buildCommandFrame spec = .ok frame) :
    parseCommandFrame frame = .ok ⟨spec.header, spec.data⟩ := by
  rw [buildCommandFrame_eq] at h
  split_ifs at h with hsize
  cases h
  simpa using parseCommandFrame_commandWire [] hsize

/-- An answer carries the number and the command of the request it was made for. -/
theorem ackKey_of_answers {ack : List UInt8} (hbuild : buildCommandFrame spec = .ok frame)
    (h : answers frame ack = true) : ackKey ack = some (spec.seqNum, spec.cmdId) := by
  rw [answers, parseCommandFrame_of_build hbuild] at h
  exact of_decide_eq_true h

/-- The frames of a Session and the ACKs of a LiDAR. -/
def codec : Codec CommandFrameSpec (List UInt8) Datagram (UInt32 × UInt16) where
  frame spec := (buildCommandFrame spec).toOption
  key spec := (spec.seqNum, spec.cmdId)
  answers frame d := answers frame d.bytes = true
  replyKey d := ackKey d.bytes
  replyKey_of_answers {spec frame d} hframe hanswers := by
    cases hbuild : buildCommandFrame spec with
    | error e =>
      rw [hbuild] at hframe
      cases hframe
    | ok built =>
      rw [hbuild] at hframe
      cases hframe
      exact ackKey_of_answers hbuild hanswers

theorem codec_frame_eq_some_iff :
    codec.frame spec = some frame ↔ buildCommandFrame spec = .ok frame := by
  show (buildCommandFrame spec).toOption = some frame ↔ _
  cases buildCommandFrame spec with
  | error => simp [Except.toOption]
  | ok => simp [Except.toOption]

/-- What `match_ack` lets pass is, uncut, an ACK with this number and command. -/
theorem matchAck_received {d : Datagram} {seq : UInt32} {cmdId : UInt16} {lidarIp : Ipv4}
    {view : CommandFrameView} (h : matchAck d.received d.sender seq cmdId lidarIp = .ok view) :
    parseCommandFrame d.bytes = .ok view ∧ ackKey d.bytes = some (seq, cmdId) := by
  unfold matchAck at h
  split at h
  · cases h
  · rename_i parsed hparse
    split_ifs at h with htype hlate
    obtain rfl := Except.ok.inj h
    simp only [not_or, not_not] at htype hlate
    have hfull : parseCommandFrame d.bytes = .ok parsed := by
      have haccepted := parseCommandFrame_eq_ok_iff.mp hparse
      exact parseCommandFrame_eq_ok_iff.mpr (haccepted.of_take (by decide))
    refine ⟨hfull, ?_⟩
    rw [ackKey, hfull]
    dsimp only
    rw [if_pos htype, hlate.1, hlate.2.1]

/-! ## What a step changes -/

/-- The request in progress. -/
def Pc.call : Pc → Option Call
  | checkAttempt call _ => some call
  | send call _ => some call
  | poll call _ => some call
  | checkPoll call _ _ => some call
  | receive call _ => some call
  | _ => none

namespace Log

/-- The next request takes its number. -/
def begin (spec : CommandFrameSpec) (x : Log) : Log :=
  { x with
    nextSeq := if x.nextSeq + 1 = 0 then 1 else x.nextSeq + 1
    exchange := x.exchange.begin spec }

/-- The request `k` returns. -/
def settle (k : ℕ) (r : Except RequestError RawAck) (x : Log) : Log :=
  { x with returned := x.returned ++ [(k, r)] }

/-- How a step of the caller changes the open request and the history. -/
inductive CallerChange : Option Call → Log → Option Call → Log → Prop
  | quiet (call : Option Call) (x : Log) : CallerChange call x call x
  | begins {x : Log} {call : Call} (fresh : call.index = x.exchange.requests.length)
      (numbered : call.spec.seqNum = x.nextSeq)
      (built : buildCommandFrame call.spec = .ok call.frame) :
      CallerChange none x (some call) (x.begin call.spec)
  | refuses {x : Log} {spec : CommandFrameSpec} (numbered : spec.seqNum = x.nextSeq) (k : ℕ)
      (e : RequestError) : CallerChange none x none ((x.begin spec).settle k (.error e))
  | transmits (x : Log) (call : Call) :
      CallerChange (some call) x (some call)
        { x with exchange := x.exchange.transmit call.index call.frame }
  | fails (x : Log) (call : Call) (e : RequestError) :
      CallerChange (some call) x none (x.settle call.index (.error e))
  | accepts {x : Log} {call : Call} {e : Inbound (List UInt8) Datagram} {view : CommandFrameView}
      (arrived : e ∈ x.exchange.inbound) (parsed : parseCommandFrame e.datagram.bytes = .ok view)
      (keyed : ackKey e.datagram.bytes = some (call.spec.seqNum, call.spec.cmdId)) :
      CallerChange (some call) x none
        ({ x with exchange := x.exchange.accept call.index e.datagram }.settle call.index
          (.ok ⟨call.spec.cmdId, call.spec.seqNum, view.data⟩))

/-- How a step changes them: the caller takes one, or a datagram is on its way to it. -/
inductive Change : Option Call → Log → Option Call → Log → Prop
  | caller {call call' : Option Call} {x x' : Log} (h : CallerChange call x call' x') :
      Change call x call' x'
  | answered {call : Option Call} {x : Log} {tr : Transmission (List UInt8)} {d : Datagram}
      (sent : tr ∈ x.exchange.sent) (answers : answers tr.bytes d.bytes = true) :
      Change call x call { x with exchange := x.exchange.deliver d (some tr) }
  | injected {call : Option Call} {x : Log} {d : Datagram} (noAck : ackKey d.bytes = none) :
      Change call x call { x with exchange := x.exchange.deliver d none }

/-- The caller puts nothing on its own socket. -/
theorem CallerChange.inbound {call call' : Option Call} {x x' : Log}
    (h : CallerChange call x call' x') : x'.exchange.inbound = x.exchange.inbound := by
  cases h <;> rfl

end Log

open Log (CallerChange Change)

namespace Memory

variable (m : Memory)

@[simp] theorem finish_call (k : ℕ) (waitFor : Option WorkState)
    (r : Except RequestError RawAck) : (m.finish k waitFor r).1.call = none := by
  unfold finish
  split <;> rfl

@[simp] theorem finish_toLog (k : ℕ) (waitFor : Option WorkState)
    (r : Except RequestError RawAck) :
    (m.finish k waitFor r).2.toLog = m.toLog.settle k r := by
  unfold finish
  split <;> rfl

/-- A request that ends with an error. -/
theorem finish_error_change (call : Call) (waitFor : Option WorkState) (e : RequestError) :
    CallerChange (some call) m.toLog (m.finish call.index waitFor (.error e)).1.call
      (m.finish call.index waitFor (.error e)).2.toLog := by
  rw [finish_call, finish_toLog]
  exact .fails ..

theorem request_change (cmdId : UInt16) (data : List UInt8) (ro : RequestOptions)
    (waitFor : Option WorkState) :
    CallerChange none m.toLog (m.request cmdId data ro waitFor).1.call
      (m.request cmdId data ro waitFor).2.toLog := by
  unfold request
  dsimp only
  split
  · rw [finish_call, finish_toLog]
    exact .refuses rfl ..
  · rename_i frame hbuild
    exact .begins rfl rfl hbuild

theorem checkAttempt_change (call : Call) (attempt : UInt32) :
    CallerChange (some call) m.toLog (m.checkAttempt call attempt).1.call
      (m.checkAttempt call attempt).2.toLog := by
  unfold checkAttempt
  split_ifs
  · exact finish_error_change { m with cancel := false } call ..
  · exact .quiet ..
  · exact .quiet ..
  · exact finish_error_change { m with stats.timeouts := m.stats.timeouts + 1 } call ..

theorem checkPoll_change (call : Call) (attempt : UInt32) (readable : Bool) :
    CallerChange (some call) m.toLog (m.checkPoll call attempt readable).1.call
      (m.checkPoll call attempt readable).2.toLog := by
  unfold checkPoll
  split_ifs
  · exact finish_error_change { m with cancel := false } call ..
  · exact .quiet ..
  · exact .quiet ..

theorem receive_change (lidar : Endpoint) (call : Call) (attempt : UInt32)
    {e : Inbound (List UInt8) Datagram} (arrived : e ∈ m.exchange.inbound) :
    CallerChange (some call) m.toLog (m.receive lidar call attempt e.datagram).1.call
      (m.receive lidar call attempt e.datagram).2.toLog := by
  unfold receive
  split
  · exact .quiet ..
  · exact .quiet ..
  · exact .quiet ..
  · rename_i view hmatch
    obtain ⟨hparse, hkey⟩ := matchAck_received hmatch
    rw [finish_call, finish_toLog]
    exact .accepts arrived hparse hkey

theorem checkWorkState_change (target : WorkState) (ws : Except RequestError WorkState) :
    CallerChange none m.toLog (m.checkWorkState target ws).1.call
      (m.checkWorkState target ws).2.toLog := by
  unfold checkWorkState
  split
  · exact .quiet ..
  · split_ifs <;> exact .quiet ..

theorem checkState_change (target : WorkState) (readable : Bool) :
    CallerChange none m.toLog (m.checkState target readable).1.call
      (m.checkState target readable).2.toLog := by
  unfold checkState
  split_ifs <;> exact .quiet ..

end Memory

variable {lidar : Endpoint} {options : SessionOptions} {a : Move} {m m' : Memory}

/-- Every step of the caller is one of these changes. -/
theorem callerStep_change {pc pc' : Pc}
    (h : callerStep lidar options a pc m = some (pc', m')) :
    CallerChange pc.call m.toLog pc'.call m'.toLog := by
  have heq : ∀ {p : Pc × Memory}, some p = some (pc', m') →
      CallerChange pc.call m.toLog p.1.call p.2.toLog →
        CallerChange pc.call m.toLog pc'.call m'.toLog := by
    intro p hp hchange
    cases hp
    exact hchange
  unfold callerStep at h
  cases pc with
  | idle =>
    cases a with
    | request => exact heq h (m.request_change ..)
    | waitForState => exact heq h (.quiet ..)
    | _ => cases h
  | checkAttempt => exact heq h (m.checkAttempt_change ..)
  | send =>
    cases a with
    | fails => exact heq h (m.finish_error_change ..)
    | _ => exact heq h (.transmits ..)
  | poll =>
    cases a with
    | timesOut => exact heq h (.quiet ..)
    | fails => exact heq h (m.finish_error_change ..)
    | wakes => exact heq h (.quiet ..)
    | _ => cases h
  | checkPoll => exact heq h (m.checkPoll_change ..)
  | receive call attempt =>
    cases a with
    | takes =>
      obtain ⟨e, hget, hp⟩ := Option.map_eq_some_iff.mp h
      have arrived : e ∈ m.exchange.inbound := List.mem_of_getElem? hget
      exact heq (congrArg some hp) (m.receive_change lidar call attempt arrived)
    | wouldBlock => exact heq h (.quiet ..)
    | _ => cases h
  | inquireState => exact heq h (m.request_change ..)
  | readState =>
    obtain ⟨result, -, hp⟩ := Option.map_eq_some_iff.mp h
    exact heq (congrArg some hp) (m.checkWorkState_change ..)
  | pollState =>
    cases a with
    | timesOut => exact heq h (.quiet ..)
    | fails => exact heq h (.quiet ..)
    | wakes => exact heq h (.quiet ..)
    | _ => cases h
  | checkState => exact heq h (m.checkState_change ..)
  | drain =>
    cases a with
    | takes =>
      obtain ⟨e, -, hp⟩ := Option.map_eq_some_iff.mp h
      exact heq (congrArg some hp) (.quiet ..)
    | wouldBlock => exact heq h (.quiet ..)
    | _ => cases h

/-- A cancel leaves the history alone. -/
theorem cancellerStep_change (h : cancellerStep a m = some m') (call : Option Call) :
    CallerChange call m.toLog call m'.toLog := by
  unfold cancellerStep at h
  split at h
  · cases h
    exact .quiet ..
  · cases h
    exact .quiet ..
  · cases h

/-- The network only adds datagrams on their way to the Session. -/
theorem networkStep_change (h : networkStep a m = some m') (call : Option Call) :
    Change call m.toLog call m'.toLog := by
  unfold networkStep at h
  split at h
  · rename_i i bytes sender
    split at h
    · cases h
    · rename_i tr hget
      split_ifs at h with hanswers
      cases h
      exact .answered (d := ⟨bytes, sender⟩) (List.mem_of_getElem? hget) hanswers
  · rename_i bytes sender
    split_ifs at h with hkey
    cases h
    exact .injected (d := ⟨bytes, sender⟩) hkey
  · cases h

/-- Every step of the Session, and of what is around it, is one of these changes. -/
theorem change_of_step {t : Actor} {l : t.Local} {c : Concurrent.Config Actor.Local Memory}
    (h : (program lidar options).step t a (c.pc t) c.mem = some (l, m)) :
    Change (Pc.call (c.pc .caller)) c.mem.toLog (Pc.call (Function.update c.pc t l .caller))
      m.toLog := by
  cases t with
  | caller => exact .caller (callerStep_change h)
  | canceller =>
    obtain ⟨m', hm, hp⟩ := Option.map_eq_some_iff.mp h
    cases hp
    exact .caller (cancellerStep_change hm _)
  | network =>
    obtain ⟨m', hm, hp⟩ := Option.map_eq_some_iff.mp h
    cases hp
    exact networkStep_change hm _

/-! ## The invariant -/

/-- The open request is the one its number says, and it sends its own frame. -/
def Call.Open (call : Call) (x : Log) : Prop :=
  x.exchange.requests[call.index]? = some call.spec ∧ buildCommandFrame call.spec = .ok call.frame

/-- The result was accepted for the request `k`, and has the data of the datagram. -/
def Returned (x : Log) (k : ℕ) (ack : RawAck) : Prop :=
  ∃ d view, (k, d) ∈ x.exchange.accepted ∧ parseCommandFrame d.bytes = .ok view ∧
    view.data = ack.data

/-- The history is a run of the `Exchange`, the requests are numbered by `seqAt`, and what
was returned was accepted. -/
structure Consistent (call : Option Call) (x : Log) : Prop where
  run : Exchange.Run codec {} x.exchange
  next : x.nextSeq = seqAt x.exchange.requests.length
  numbered : ∀ {k spec}, x.exchange.requests[k]? = some spec → spec.seqNum = seqAt k
  opened : ∀ c, call = some c → c.Open x
  returned : ∀ {k ack}, (k, .ok ack) ∈ x.returned → Returned x k ack

namespace Consistent

variable {call : Option Call} {x : Log}

/-- A request takes the next number. -/
theorem begin (h : Consistent none x) {spec : CommandFrameSpec}
    (numbered : spec.seqNum = x.nextSeq) : Consistent none (x.begin spec) where
  run := h.run.tail (.begin spec)
  next := by
    show (if x.nextSeq + 1 = 0 then 1 else x.nextSeq + 1) =
      seqAt (x.exchange.requests ++ [spec]).length
    rw [List.length_append, List.length_singleton, seqAt_succ, h.next]
  numbered {k spec'} hget := by
    rcases Exchange.getElem?_begin hget with old | ⟨rfl, rfl⟩
    · exact h.numbered old
    · rw [numbered, h.next]
  opened := by
    intro c hc
    cases hc
  returned := h.returned

/-- Nobody has to know which request is open. -/
theorem close (h : Consistent call x) : Consistent none x :=
  { h with opened := fun _ hc => nomatch hc }

/-- A result is recorded. -/
theorem settle (h : Consistent none x) {k : ℕ} {r : Except RequestError RawAck}
    (new : ∀ ack, r = .ok ack → Returned x k ack) : Consistent none (x.settle k r) where
  run := h.run
  next := h.next
  numbered := h.numbered
  opened := fun _ hc => nomatch hc
  returned {k' ack} mem := by
    rcases List.mem_append.mp mem with old | last
    · exact h.returned old
    · obtain ⟨rfl, hr⟩ := Prod.mk.inj (List.mem_singleton.mp last)
      exact new ack hr.symm

/-- The exchange goes on without a new request. -/
theorem extend (h : Consistent call x) {y : Exchange CommandFrameSpec (List UInt8) Datagram}
    (hstep : Exchange.Step codec x.exchange y) (hrequests : y.requests = x.exchange.requests)
    (haccepted : ∀ p ∈ x.exchange.accepted, p ∈ y.accepted) :
    Consistent call { x with exchange := y } where
  run := h.run.tail hstep
  next := by
    show x.nextSeq = seqAt y.requests.length
    rw [hrequests]
    exact h.next
  numbered {k spec} hget := by
    change y.requests[k]? = some spec at hget
    rw [hrequests] at hget
    exact h.numbered hget
  opened c hc := by
    show y.requests[c.index]? = some c.spec ∧ _
    rw [hrequests]
    exact h.opened c hc
  returned {k ack} mem := by
    obtain ⟨d, view, hmem, hrest⟩ := h.returned mem
    exact ⟨d, view, haccepted _ hmem, hrest⟩

/-- Every change keeps it. -/
theorem change {call' : Option Call} {x' : Log} (h : Consistent call x)
    (hchange : Change call x call' x') : Consistent call' x' := by
  cases hchange with
  | caller hcaller =>
    cases hcaller with
    | quiet => exact h
    | @begins _ call fresh numbered built =>
      refine { h.begin numbered with opened := ?_ }
      intro c hc
      cases hc
      refine ⟨?_, built⟩
      rw [fresh]
      exact Exchange.begin_getElem?_length call.spec
    | refuses numbered => exact (h.begin numbered).settle (fun _ hr => nomatch hr)
    | transmits _ call =>
      obtain ⟨hget, hbuild⟩ := h.opened call rfl
      have hframe := codec_frame_eq_some_iff.mpr hbuild
      exact h.extend (.transmit hget hframe) rfl (fun _ mem => mem)
    | fails _ => exact h.close.settle (fun _ hr => nomatch hr)
    | @accepts _ call e view arrived parsed keyed =>
      obtain ⟨hget, -⟩ := h.opened call rfl
      have hkept := h.extend (.accept hget arrived keyed) rfl
        (fun _ mem => List.mem_append_left _ mem)
      refine hkept.close.settle ?_
      intro ack hr
      cases hr
      exact ⟨e.datagram, view, List.mem_append_right _ (List.mem_singleton.mpr rfl), parsed, rfl⟩
  | answered sent answers => exact h.extend (.answer sent answers) rfl (fun _ mem => mem)
  | injected noAck => exact h.extend (.inject noAck) rfl (fun _ mem => mem)

/-- What the caller has open and the history fit together at any time. -/
theorem of_reaches {c : Concurrent.Config Actor.Local Memory}
    (h : (program lidar options).Reaches CommandSession.opened anyMove c) :
    Consistent (Pc.call (c.pc .caller)) c.mem.toLog := by
  refine h.induction (I := fun c => Consistent (Pc.call (c.pc .caller)) c.mem.toLog) ?_ ?_
  · exact {
      run := .refl
      next := rfl
      numbered := fun hget => nomatch hget
      opened := fun _ hc => nomatch hc
      returned := fun mem => nomatch mem }
  · intro t a c l m _ ih _ hstep
    exact ih.change (change_of_step hstep)

/-- Fewer than `2 ^ 32 - 1` requests have distinct numbers. -/
theorem seqNum_nodup (h : Consistent call x) (few : x.exchange.requests.length < 2 ^ 32 - 1) :
    (x.exchange.requests.map CommandFrameSpec.seqNum).Nodup := by
  refine List.nodup_iff_getElem?_ne_getElem?.mpr ?_
  intro i j hij hj
  rw [List.length_map] at hj
  rw [List.getElem?_map, List.getElem?_map, List.getElem?_eq_getElem hj,
    List.getElem?_eq_getElem (hij.trans hj)]
  intro heq
  have hseq : seqAt i = seqAt j := by
    rw [← h.numbered (List.getElem?_eq_getElem (hij.trans hj)),
      ← h.numbered (List.getElem?_eq_getElem hj)]
    exact Option.some.inj heq
  have := seqAt_inj (by omega) (by omega) hseq
  omega

/-- So have they distinct keys. -/
theorem key_nodup (h : Consistent call x) (few : x.exchange.requests.length < 2 ^ 32 - 1) :
    (x.exchange.requests.map codec.key).Nodup := by
  have hseq := h.seqNum_nodup few
  have hfst : x.exchange.requests.map CommandFrameSpec.seqNum =
      (x.exchange.requests.map codec.key).map Prod.fst := by
    rw [List.map_map]
    rfl
  rw [hfst] at hseq
  exact hseq.of_map _

end Consistent

/-- **An ACK is never attributed to another request.**  In every run of a Session with its
LiDAR and the network, as long as there are fewer than `2 ^ 32 - 1` requests: what `request`
returns for the request `k` is the data of a datagram with which the LiDAR has answered a
transmission of the request `k`; no request has the number 0; all transmissions of one
request are the same bytes, the frame of this request; and the requests have distinct
numbers. -/
theorem ack_attributed {c : Concurrent.Config Actor.Local Memory}
    (h : (program lidar options).Reaches opened anyMove c)
    (few : c.mem.exchange.requests.length < 2 ^ 32 - 1) :
    (∀ k ack, (k, .ok ack) ∈ c.mem.returned →
      ∃ tr ∈ c.mem.exchange.sent, tr.request = k ∧
        ∃ d, ⟨d, some tr⟩ ∈ c.mem.exchange.inbound ∧ answers tr.bytes d.bytes = true ∧
          ∃ view, parseCommandFrame d.bytes = .ok view ∧ view.data = ack.data) ∧
    (∀ spec ∈ c.mem.exchange.requests, spec.seqNum ≠ 0) ∧
    (∀ tr ∈ c.mem.exchange.sent,
      (∃ spec, c.mem.exchange.requests[tr.request]? = some spec ∧
        buildCommandFrame spec = .ok tr.bytes) ∧
      ∀ tr' ∈ c.mem.exchange.sent, tr.request = tr'.request → tr.bytes = tr'.bytes) ∧
    (c.mem.exchange.requests.map CommandFrameSpec.seqNum).Nodup := by
  have hconsistent := Consistent.of_reaches h
  have hsound : Exchange.Sound codec c.mem.exchange := Exchange.Sound.empty.run hconsistent.run
  refine ⟨?_, ?_, ?_, hconsistent.seqNum_nodup few⟩
  · intro k ack mem
    obtain ⟨d, view, haccepted, hparse, hdata⟩ := hconsistent.returned mem
    obtain ⟨tr, sent, hk, hanswers, arrived⟩ :=
      hsound.attributed (hconsistent.key_nodup few) haccepted
    exact ⟨tr, sent, hk, d, arrived, hanswers, view, hparse, hdata⟩
  · intro spec mem
    obtain ⟨k, hget⟩ := List.mem_iff_getElem?.mp mem
    rw [hconsistent.numbered hget]
    exact seqAt_ne_zero k
  · intro tr sent
    obtain ⟨spec, hget, hframe⟩ := hsound.framed tr sent
    refine ⟨⟨spec, hget, codec_frame_eq_some_iff.mp hframe⟩, ?_⟩
    intro tr' sent' same
    exact hsound.bytes_eq sent sent' same

/-- The ACKs that were returned. -/
def Log.acks (x : Log) : List (ℕ × RawAck) :=
  x.returned.filterMap fun p => p.2.toOption.map (p.1, ·)

theorem Log.returned_of_mem_acks {x : Log} {k : ℕ} {ack : RawAck} (h : (k, ack) ∈ x.acks) :
    (k, .ok ack) ∈ x.returned := by
  obtain ⟨⟨k', r⟩, mem, hmap⟩ := List.mem_filterMap.mp h
  cases r with
  | error => cases hmap
  | ok =>
    cases hmap
    exact mem

def lidarEndpoint : Endpoint :=
  ⟨⟨192, 168, 1, 100⟩, 56100⟩

/-- The ACK of an inquiry. -/
def inquiryAck (seq : UInt32) (data : List UInt8) : List UInt8 :=
  commandWire
    { seqNum := seq, cmdId := kParamInquire, cmdType := .kAck, senderType := .kLidar, data := data }

/-- The first request times out.  Its ACK arrives during the second one, before the ACK
that the second one is waiting for. -/
def lateAck : List (Actor × Move) :=
  [(.caller, .request kParamInquire [] (some ⟨1⟩)), (.caller, .proceeds), (.caller, .proceeds),
    (.caller, .timesOut), (.caller, .proceeds),
    (.caller, .request kParamInquire [] (some ⟨1⟩)), (.caller, .proceeds), (.caller, .proceeds),
    (.network, .answers 0 (inquiryAck 1 [7]) lidarEndpoint),
    (.network, .answers 1 (inquiryAck 2 [8]) lidarEndpoint),
    (.caller, .wakes true), (.caller, .proceeds), (.caller, .takes 0), (.caller, .takes 1)]

/-- The late ACK is passed over. -/
theorem ack_attributed_lateAck :
    ∃ c, (program lidarEndpoint {}).Reaches opened anyMove c ∧
      c.mem.acks = [(1, ⟨kParamInquire, 2, [8]⟩)] ∧ c.mem.stats.lateAcks = 1 ∧
      ∃ tr ∈ c.mem.exchange.sent, tr.request = 1 ∧
        ∃ d, ⟨d, some tr⟩ ∈ c.mem.exchange.inbound ∧ answers tr.bytes d.bytes = true ∧
          ∃ view, parseCommandFrame d.bytes = .ok view ∧ view.data = [8] := by
  have hrun : ((program lidarEndpoint {}).exec lateAck opened).any (fun c =>
      decide (c.mem.exchange.requests.length = 2 ∧
        c.mem.acks = [(1, ⟨kParamInquire, 2, [8]⟩)] ∧ c.mem.stats.lateAcks = 1)) = true := by
    decide +kernel
  obtain ⟨c, hreach, hc⟩ := Concurrent.Reaches.of_exec (Concurrent.allowed_anyMove _ _) hrun
  obtain ⟨hcount, hacks, hlate⟩ := of_decide_eq_true hc
  have hmem : (1, ⟨kParamInquire, 2, [8]⟩) ∈ c.mem.acks := by
    rw [hacks]
    exact List.mem_singleton.mpr rfl
  have few : c.mem.exchange.requests.length < 2 ^ 32 - 1 := by
    rw [hcount]
    norm_num
  exact ⟨c, hreach, hacks, hlate, (ack_attributed hreach few).1 1 _ (Log.returned_of_mem_acks hmem)⟩

end CommandSession

end LivoxMid360
