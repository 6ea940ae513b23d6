import LivoxMid360.Config
import LivoxMid360.Lib.Interleaving
import LivoxMid360.Lib.RequestReply

/-!
# A Session and the network

`Session::request` and `Session::wait_for_state` as one machine.  A Session has no thread of
its own: whoever calls it runs the attempts, waits on the poller and takes datagrams from
the socket.  Besides this caller there are the threads that call `cancel()` or request a
stop, and the network with the LiDAR behind it.

The socket is the `inbound` list of an `Exchange`: `recv_one` may find any datagram that
was ever on its way, as often as it likes, or nothing.  The LiDAR answers any transmission
any number of times, with any data, in a frame that carries the sequence number and the
command of the request; other datagrams may be put in at any time, as long as they are no
ACKs.

How long a wait takes is not modelled: a deadline may pass at any time, and `wait` may
return early, with the socket readable or not.  So the timeouts of the options are left
out, and `attempts` is what remains of them.

An InquireResult has its values as they were parsed; the buffer that its views point into
is not modelled.

* `matchAck` decides whether a datagram is the answer that a request waits for.
* `Memory.request`, `checkAttempt`, `checkPoll` and `receive` are the parts of `request`
  between two accesses to what is shared; `callerStep` puts them in order, and with them
  those of `wait_for_state`, whose inquiries are requests like any other.
* `program` adds the other threads and the network, and `opened` is the start.
-/

namespace LivoxMid360

/-- `CmdId::kParamInquire`. -/
def kParamInquire : UInt16 := 0x0101

/-- The code of an inquiry of a key that the LiDAR does not have. -/
def RetCode.kParamNotSupport : RetCode := ⟨0x20⟩

/-- The largest datagram `recv_one` has room for; the rest of a longer one is lost. -/
def kMaxDatagramSize : ℕ := 1500

/-- What a socket or the poller fails with. -/
inductive TransportErrorCode
  | kSocketCreate
  | kBind
  | kSetOption
  | kAddressInUse
  | kNetworkUnreachable
  | kSendFailed
  | kMessageTooLong
  | kWouldBlock
  | kTimeout
  | kInterrupted
  | kClosed
  | kInvalidArgument
  | kOther
  deriving DecidableEq

/-- A `TransportErrorCode` with the `errno` behind it. -/
structure TransportError where
  code : TransportErrorCode := .kOther
  errnoValue : Int32 := 0
  deriving DecidableEq

/-- An address and a port. -/
structure Endpoint where
  ip : Ipv4
  port : UInt16
  deriving DecidableEq

namespace CommandSession

open LittleEndian RequestReply

/-! ## Errors and results -/

/-- A `SessionError` with its `transport` member, which only a call that uses the socket
sets. -/
structure RequestError extends SessionError where
  transport : Option TransportError := none
  deriving DecidableEq

/-- The error of a request that cannot be sent, or whose wait fails. -/
def transportError (e : TransportError) (cmdId : UInt16 := 0) (attempts : UInt32 := 0) :
    RequestError :=
  { kind := .kTransport, cmdId := cmdId, attempts := attempts, transport := some e }

/-- The error for an answer that does not parse. -/
def badResponse (e : ParseError) (cmdId : UInt16) (attempts : UInt32) : RequestError :=
  { kind := .kBadResponse, cmdId := cmdId, attempts := attempts, parse := some e }

/-- The error for an answer with a return code other than success. -/
def rejected (ret : RetCode) (errorKey cmdId : UInt16) (attempts : UInt32) : RequestError :=
  { kind := .kLidarRejected, cmdId := cmdId, attempts := attempts, retCode := ret,
    errorKey := errorKey }

/-- The error of a call that has found the cancel flag raised, or a stop requested. -/
def cancelled (cmdId : UInt16) (attempts : UInt32 := 0) : RequestError :=
  { kind := .kCancelled, cmdId := cmdId, attempts := attempts }

/-- The error of `wait_for_state` when it gives up at the state `ws`. -/
def stuckAt (kind : SessionErrorKind) (ws : WorkState) : RequestError :=
  { kind := kind, cmdId := 0x0101, workState := some ws }

/-- What `request` returns: an ACK that is matched and not parsed further. -/
structure RawAck where
  cmdId : UInt16
  seqNum : UInt32
  data : List UInt8
  deriving DecidableEq

/-- The data of the ACK to an inquiry. -/
structure ParamInquireAck where
  retCode : RetCode
  values : List KeyValue
  deriving DecidableEq

/-- `parse_param_inquire_ack`: a return code, a count and the entries. -/
def parseParamInquireAck (data : List UInt8) : Option (Except ParseError ParamInquireAck) :=
  if data.length < 3 then some (.error .kTruncated)
  else
    (parseKeyValueList (data.drop 3) (readLe UInt16 data 1).toNat).map fun kvs =>
      kvs.map fun values => ⟨⟨readLe UInt8 data 0⟩, values⟩

/-- What an inquiry returns. -/
structure InquireResult where
  retCode : RetCode := .kSuccess
  values : List KeyValue
  raw : List UInt8
  deriving DecidableEq

/-- The key an ACK with a return code other than success is reported with. -/
def rejectedKey (a : ParamInquireAck) (requested : List UInt16) : UInt16 :=
  let answered k := a.values.any fun kv => kv.key == k && !kv.value.isEmpty
  let first := (a.values.head?.map KeyValue.key).getD 0
  if a.retCode = .kParamNotSupport then (requested.find? fun k => !answered k).getD first
  else first

/-- `to_inquire_result`: anything but success is an error. -/
def toInquireResult (ack : RawAck) (requested : List UInt16) :
    Option (Except RequestError InquireResult) :=
  (parseParamInquireAck ack.data).map fun parsed =>
    match parsed with
    | .error e => .error (badResponse e ack.cmdId 0)
    | .ok a =>
      if a.retCode ≠ .kSuccess then
        .error (rejected a.retCode (rejectedKey a requested) ack.cmdId 0)
      else .ok { retCode := a.retCode, values := a.values, raw := ack.data }

/-- `to_work_state`: the value of `kCurWorkState` in an answer. -/
def toWorkState (result : InquireResult) : Except RequestError WorkState :=
  match findKey result.values .kCurWorkState with
  | none => .error (badResponse .kTruncated 0x0101 0)
  | some v =>
    match decodeWorkState v with
    | .error _ => .error (badResponse .kTruncated 0x0101 0)
    | .ok ws => .ok ws

/-! ## Datagrams -/

/-- A datagram on its way to the socket. -/
structure Datagram where
  bytes : List UInt8
  sender : Endpoint
  deriving DecidableEq

/-- What `recv_one` leaves in the buffer. -/
def Datagram.received (d : Datagram) : List UInt8 :=
  d.bytes.take kMaxDatagramSize

/-- Why a datagram is not the answer to a request. -/
inductive AckMismatch
  | kBadFrame
  | kNotAck
  | kLate
  deriving DecidableEq

/-- `match_ack`: the frame is good, an ACK, and has the number, the command and the sender. -/
def matchAck (datagram : List UInt8) (sender : Endpoint) (seq : UInt32) (cmdId : UInt16)
    (lidarIp : Ipv4) : Except AckMismatch CommandFrameView :=
  match parseCommandFrame datagram with
  | .error _ => .error .kBadFrame
  | .ok view =>
    if view.header.cmdType ≠ .kAck then .error .kNotAck
    else if view.header.seqNum ≠ seq ∨ view.header.cmdId ≠ cmdId ∨ sender.ip ≠ lidarIp then
      .error .kLate
    else .ok view

/-- The sequence number and the command of an ACK frame. -/
def ackKey (datagram : List UInt8) : Option (UInt32 × UInt16) :=
  match parseCommandFrame datagram with
  | .error _ => none
  | .ok view =>
    if view.header.cmdType = .kAck then some (view.header.seqNum, view.header.cmdId) else none

/-- An ACK frame that carries the sequence number and the command of the request. -/
def answers (request ack : List UInt8) : Bool :=
  match parseCommandFrame request with
  | .error _ => false
  | .ok view => ackKey ack = some (view.header.seqNum, view.header.cmdId)

/-! ## The machine -/

/-- The number of attempts of a request; 0 counts as 1. -/
structure RequestOptions where
  attempts : UInt32 := 3
  deriving DecidableEq

/-- The options that requests without options of their own use. -/
structure SessionOptions where
  request : RequestOptions := {}
  deriving DecidableEq

/-- The counters of a Session. -/
structure SessionStats where
  requests : ℕ := 0
  retries : ℕ := 0
  timeouts : ℕ := 0
  lateAcks : ℕ := 0
  badFrames : ℕ := 0
  deriving DecidableEq

/-- The sequence counter, and two fields that are not in the code: what has happened
between the Session and the LiDAR, and what `request` has returned, with the number of the
request. -/
structure Log where
  nextSeq : UInt32 := 1
  exchange : Exchange CommandFrameSpec (List UInt8) Datagram := {}
  returned : List (ℕ × Except RequestError RawAck) := []

/-- What the caller and the other threads share.  `waited`, the results of
`wait_for_state`, is not in the code. -/
structure Memory extends Log where
  stats : SessionStats := {}
  cancel : Bool := false
  stop : Bool := false
  waited : List (Except RequestError Unit) := []

/-- A request in progress: its number, what it sends, and the state that is waited for if
`wait_for_state` has made it. -/
structure Call where
  index : ℕ
  spec : CommandFrameSpec
  frame : List UInt8
  attempts : UInt32
  waitFor : Option WorkState

/-- Where the caller is: in `request` up to `receive`, then in `wait_for_state`.  `attempt`
counts from 1. -/
inductive Pc
  | idle
  | checkAttempt (call : Call) (attempt : UInt32)
  | send (call : Call) (attempt : UInt32)
  | poll (call : Call) (attempt : UInt32)
  | checkPoll (call : Call) (attempt : UInt32) (readable : Bool)
  | receive (call : Call) (attempt : UInt32)
  | inquireState (target : WorkState)
  | readState (target : WorkState) (ack : RawAck)
  | pollState (target ws : WorkState)
  | checkState (target : WorkState) (readable : Bool)
  | drain (target : WorkState)

/-- Who takes a step. -/
inductive Actor
  | caller
  | canceller
  | network
  deriving DecidableEq

/-- Only the caller has a place in the code. -/
def Actor.Local : Actor → Type
  | caller => Pc
  | canceller => Unit
  | network => Unit

/-- What is not determined by the code: the calls, the outcomes of the socket and the
poller, and what the other side does. -/
inductive Move
  | request (cmdId : UInt16) (data : List UInt8) (opts : Option RequestOptions)
  | waitForState (target : WorkState)
  | proceeds
  | fails (e : TransportError)
  | timesOut
  | wakes (readable : Bool)
  | takes (i : ℕ)
  | wouldBlock
  | cancel
  | requestStop
  | answers (i : ℕ) (bytes : List UInt8) (sender : Endpoint)
  | injects (bytes : List UInt8) (sender : Endpoint)

namespace Memory

/-- `wait_for_state` returns. -/
def endWait (r : Except RequestError Unit) (m : Memory) : Pc × Memory :=
  (.idle, { m with waited := m.waited ++ [r] })

/-- The request `k` returns to its caller, which may be `wait_for_state`. -/
def finish (k : ℕ) (waitFor : Option WorkState) (r : Except RequestError RawAck) (m : Memory) :
    Pc × Memory :=
  let m := { m with returned := m.returned ++ [(k, r)] }
  match waitFor, r with
  | none, _ => (.idle, m)
  | some target, .ok ack => (.readState target ack, m)
  | some _, .error e => m.endWait (.error e)

/-- `request` up to its first attempt. -/
def request (cmdId : UInt16) (data : List UInt8) (ro : RequestOptions)
    (waitFor : Option WorkState) (m : Memory) : Pc × Memory :=
  let spec : CommandFrameSpec := { seqNum := m.nextSeq, cmdId := cmdId, data := data }
  let k := m.exchange.requests.length
  let m := { m with
    nextSeq := if m.nextSeq + 1 = 0 then 1 else m.nextSeq + 1
    exchange := m.exchange.begin spec
    stats.requests := m.stats.requests + 1 }
  match buildCommandFrame spec with
  | .error _ =>
    let tooLong : TransportError := { code := .kMessageTooLong, errnoValue := 0 }
    m.finish k waitFor (.error (transportError tooLong cmdId))
  | .ok frame => (.checkAttempt ⟨k, spec, frame, max ro.attempts 1, waitFor⟩ 1, m)

/-- The condition of a `for` loop over the attempts and, in the loop, the check for a
cancel. -/
def checkAttempt (call : Call) (attempt : UInt32) (m : Memory) : Pc × Memory :=
  if attempt ≤ call.attempts then
    if m.cancel ∨ m.stop then
      { m with cancel := false }.finish call.index call.waitFor
        (.error (cancelled call.spec.cmdId (attempt - 1)))
    else if 1 < attempt then
      (.send call attempt, { m with stats.retries := m.stats.retries + 1 })
    else (.send call attempt, m)
  else
    { m with stats.timeouts := m.stats.timeouts + 1 }.finish call.index call.waitFor
      (.error { kind := .kTimeout, cmdId := call.spec.cmdId, attempts := call.attempts })

/-- After the poller has returned. -/
def checkPoll (call : Call) (attempt : UInt32) (readable : Bool) (m : Memory) : Pc × Memory :=
  if m.cancel ∨ m.stop then
    { m with cancel := false }.finish call.index call.waitFor
      (.error (cancelled call.spec.cmdId attempt))
  else if readable then (.receive call attempt, m)
  else (.poll call attempt, m)

/-- A datagram is taken from the socket while the request is waiting. -/
def receive (lidar : Endpoint) (call : Call) (attempt : UInt32) (d : Datagram) (m : Memory) :
    Pc × Memory :=
  match matchAck d.received d.sender call.spec.seqNum call.spec.cmdId lidar.ip with
  | .error .kBadFrame =>
    (.receive call attempt, { m with stats.badFrames := m.stats.badFrames + 1 })
  | .error .kNotAck => (.receive call attempt, m)
  | .error .kLate => (.receive call attempt, { m with stats.lateAcks := m.stats.lateAcks + 1 })
  | .ok view =>
    { m with exchange := m.exchange.accept call.index d }.finish call.index call.waitFor
      (.ok ⟨call.spec.cmdId, call.spec.seqNum, view.data⟩)

/-- What `wait_for_state` makes of the work state. -/
def checkWorkState (target : WorkState) (ws : Except RequestError WorkState) (m : Memory) :
    Pc × Memory :=
  match ws with
  | .error e => m.endWait (.error e)
  | .ok ws =>
    if ws = target then m.endWait (.ok ())
    else if ws = .kError ∨ ws = .kUpgrade then
      m.endWait (.error (stuckAt .kUnexpectedState ws))
    else (.pollState target ws, m)

/-- After the poller has returned to `wait_for_state`. -/
def checkState (target : WorkState) (readable : Bool) (m : Memory) : Pc × Memory :=
  if m.cancel ∨ m.stop then
    { m with cancel := false }.endWait (.error (cancelled 0x0101))
  else if readable then (.drain target, m)
  else (.inquireState target, m)

end Memory

/-- The keys of `work_state`. -/
def workStateKeys : List UInt16 :=
  [Key.kCurWorkState.raw]

/-- One step of the caller. -/
def callerStep (lidar : Endpoint) (options : SessionOptions) (a : Move) :
    Pc → Memory → Option (Pc × Memory)
  | .idle, m =>
    match a with
    | .request cmdId data opts => some (m.request cmdId data (opts.getD options.request) none)
    | .waitForState target => some (.inquireState target, m)
    | _ => none
  -- `request`
  | .checkAttempt call attempt, m => some (m.checkAttempt call attempt)
  | .send call attempt, m =>
    match a with
    -- a datagram that cannot be sent ends the request, there is no further attempt
    | .fails e =>
      some (m.finish call.index call.waitFor
        (.error (transportError e call.spec.cmdId attempt)))
    | _ =>
      some (.poll call attempt,
        { m with exchange := m.exchange.transmit call.index call.frame })
  | .poll call attempt, m =>
    match a with
    | .timesOut => some (.checkAttempt call (attempt + 1), m)
    | .fails e =>
      some (m.finish call.index call.waitFor
        (.error (transportError e call.spec.cmdId attempt)))
    | .wakes readable => some (.checkPoll call attempt readable, m)
    | _ => none
  | .checkPoll call attempt readable, m => some (m.checkPoll call attempt readable)
  | .receive call attempt, m =>
    match a with
    | .takes i =>
      (m.exchange.inbound[i]?).map fun e => m.receive lidar call attempt e.datagram
    | .wouldBlock => some (.poll call attempt, m)
    | _ => none
  -- `wait_for_state`
  | .inquireState target, m =>
    some (m.request kParamInquire (encodeParamInquireRequest workStateKeys) options.request
      (some target))
  | .readState target ack, m =>
    -- there is no next step when parsing the list terminates the process
    (toInquireResult ack workStateKeys).map fun result =>
      m.checkWorkState target (result.bind toWorkState)
  | .pollState target ws, m =>
    match a with
    | .timesOut => some (m.endWait (.error (stuckAt .kTimeout ws)))
    | .fails e => some (m.endWait (.error (transportError e 0x0101)))
    | .wakes readable => some (.checkState target readable, m)
    | _ => none
  | .checkState target readable, m => some (m.checkState target readable)
  | .drain target, m =>
    match a with
    | .takes i =>
      -- whatever arrives between two inquiries is counted as late
      (m.exchange.inbound[i]?).map fun _ =>
        (.drain target, { m with stats.lateAcks := m.stats.lateAcks + 1 })
    | .wouldBlock => some (.inquireState target, m)
    | _ => none

/-- `cancel()`, or a stop is requested. -/
def cancellerStep (a : Move) (m : Memory) : Option Memory :=
  match a with
  | .cancel => some { m with cancel := true }
  | .requestStop => some { m with stop := true }
  | _ => none

/-- The LiDAR answers a transmission, or a datagram turns up that is no ACK. -/
def networkStep (a : Move) (m : Memory) : Option Memory :=
  match a with
  | .answers i bytes sender =>
    match m.exchange.sent[i]? with
    | none => none
    | some tr =>
      if answers tr.bytes bytes then
        some { m with exchange := m.exchange.deliver ⟨bytes, sender⟩ (some tr) }
      else none
  | .injects bytes sender =>
    if ackKey bytes = none then
      some { m with exchange := m.exchange.deliver ⟨bytes, sender⟩ none }
    else none
  | _ => none

/-- The Session with the LiDAR `lidar`, and what is around it. -/
def program (lidar : Endpoint) (options : SessionOptions) :
    Concurrent Actor Actor.Local Memory Move where
  step
    | .caller, a, pc, m => callerStep lidar options a pc m
    | .canceller, a, pc, m => (cancellerStep a m).map (pc, ·)
    | .network, a, pc, m => (networkStep a m).map (pc, ·)

/-- A Session that has made no request yet. -/
def opened : Concurrent.Config Actor.Local Memory where
  pc
    | .caller => Pc.idle
    | .canceller => ()
    | .network => ()
  mem := {}

end CommandSession

end LivoxMid360
