import LivoxMid360.PythonData
import LivoxMid360.Device.Datagram
import LivoxMid360.FrameAssembler.DropCounts

/-!
# Injected faults and what the host counts

The simulator can drop packets of a data stream, send them late or send them twice
(`PacketFaults`, `_add_fault`, `_send_data`).  The host sees sixteen bits of each packet's
number and reports what it takes for losses and for reordering.  Both sides count; this
module is about how the counts of a whole run of the IMU stream are related.

A stream also counts its packets without the wrap of `udp_cnt`, and each datagram carries
the number of its packet.  Neither is in the code, and nothing that the stream does depends
on them; they say which of two datagrams is from the later packet, for which sixteen bits
are not enough.

When every datagram leaves, `sendData_raises` says which of them raise the highest number
sent: the packet itself, and neither its copy nor a packet that was held back.
-/

namespace LivoxMid360

open LittleEndian HighWater

namespace Simulator

open Python (Exn raise Samples ImuBits SampleExn packSamples DataPacket dataWire sealed)

/-! ## IMU packets -/

/-- What `_send_imu` puts into a packet besides its number. -/
structure ImuPacket where
  frameCnt : UInt8
  timeType : TimeType
  timestampNs : UInt64
  sample : ImuBits

namespace ImuPacket

def header (p : ImuPacket) (udpCnt : ℕ) : DataPacketHeader where
  timeInterval := 0
  dotNum := 1
  udpCnt := UInt16.ofNat udpCnt
  frameCnt := p.frameCnt
  dataType := .kImu
  timeType := p.timeType
  timestampNs := p.timestampNs

/-- The packet on the wire. -/
def datagram (p : ImuPacket) (udpCnt : ℕ) : List UInt8 :=
  dataWire (sealed (p.header udpCnt) (Samples.imu [p.sample]).bytes true)
    (Samples.imu [p.sample]).bytes

/-- The host reads the packet, and its number. -/
theorem parseDataPacket_datagram (p : ImuPacket) (udpCnt : ℕ) (verifyCrc : Bool) :
    ∃ v, parseDataPacket (p.datagram udpCnt) verifyCrc = .ok v ∧ v.header.dataType = .kImu ∧
      v.header.dotNum = 1 ∧ v.header.udpCnt = UInt16.ofNat udpCnt := by
  refine ⟨⟨_, _⟩, Python.parseDataPacket_dataWire ?_ ?_ ?_ ?_ ?_, ?_, ?_, ?_⟩
  · rfl
  · rfl
  · rfl
  · rfl
  · exact .inr rfl
  · rfl
  · rfl
  · rfl

end ImuPacket

/-! ## The stream -/

/-- A datagram, with the number of its packet, which is not in the code. -/
structure Numbered where
  number : ℤ
  bytes : List UInt8

/-- `PacketFaults`. -/
structure PacketFaults where
  drop : ℕ := 0
  reorder : ℕ := 0
  depth : ℕ := 1
  duplicate : ℕ := 0
  /-- The datagram, its `udp_cnt`, and the packets still to pass. -/
  held : Option (Numbered × ℕ × ℕ) := none

/-- One data stream: its `udp_cnt`, its faults and its entries of `sent`.  `number` is
`udp_cnt` without the wrap, and not in the code. -/
structure DataStream where
  number : ℤ := 0
  udpCnt : ℕ := 0
  faults : PacketFaults := {}
  sent : ℕ := 0
  dropped : ℕ := 0
  reordered : ℕ := 0
  duplicated : ℕ := 0

inductive Fault where
  | drop
  | reorder
  | duplicate

/-- A call of `_sendto`.  `left` is what it returned: the simulator is not silenced and the
socket takes the datagram. -/
structure Attempt where
  data : Numbered
  again : Bool
  left : Bool

/-- What `_sendto` returns in one call of `_send_data`. -/
structure Sends where
  first : Bool
  again : Bool
  released : Bool

/-- `_add_fault` of a known stream. -/
def addFault (f : PacketFaults) (cmd : Fault) (count depth : ℤ) : Except Exn PacketFaults :=
  if count < 0 then raise ("negative count " ++ toString count)
  else match cmd with
  | .drop => .ok { f with drop := f.drop + count.toNat }
  | .duplicate => .ok { f with duplicate := f.duplicate + count.toNat }
  | .reorder =>
    if depth < 1 then raise ("depth must be at least 1, got " ++ toString depth)
    else .ok { f with reorder := f.reorder + count.toNat, depth := depth.toNat }

namespace DataStream

/-- `_send_data`: the packet itself. -/
def countSent (s : DataStream) (left : Bool) : DataStream :=
  { s with sent := s.sent + if left then 1 else 0 }

/-- `_send_data`: the second copy. -/
def sendDuplicate (s : DataStream) (data : Numbered) (left : Bool) :
    DataStream × List Attempt :=
  if s.faults.duplicate > 0 then
    ({ s with
        faults := { s.faults with duplicate := s.faults.duplicate - 1 }
        duplicated := s.duplicated + if left then 1 else 0 },
      [⟨data, true, left⟩])
  else (s, [])

/-- `_send_data`: the packet that is held back. -/
def releaseHeld (s : DataStream) (left : Bool) : DataStream × List Attempt :=
  match s.faults.held with
  | none => (s, [])
  | some (held, heldCnt, toPass) =>
    if toPass > 1 then
      ({ s with faults := { s.faults with held := some (held, heldCnt, toPass - 1) } }, [])
    else
      ({ s with
          faults := { s.faults with held := none }
          sent := s.sent + if left then 1 else 0
          reordered := s.reordered + if left then 1 else 0 },
        [⟨held, false, left⟩])

/-- `_send_data`. -/
def sendData (s : DataStream) (data : Numbered) (udpCnt : ℕ) (o : Sends) :
    DataStream × List Attempt :=
  let f := s.faults
  if f.drop > 0 then
    ({ s with faults := { f with drop := f.drop - 1 }, dropped := s.dropped + 1 }, [])
  else if f.held.isNone ∧ f.reorder > 0 then
    ({ s with
        faults := { f with reorder := f.reorder - 1, held := some (data, udpCnt, f.depth) } }, [])
  else
    let copied := (s.countSent o.first).sendDuplicate data o.again
    let released := copied.1.releaseHeld o.released
    (released.1, ⟨data, false, o.first⟩ :: (copied.2 ++ released.2))

/-- The stream goes on to the next packet. -/
def next (s : DataStream) : DataStream :=
  { s with number := s.number + 1, udpCnt := (s.udpCnt + 1) % 65536 }

/-- A control line that `_add_fault` refuses has no effect. -/
def control (s : DataStream) (cmd : Fault) (count depth : ℤ) : DataStream :=
  match addFault s.faults cmd count depth with
  | .error _ => s
  | .ok faults => { s with faults }

end DataStream

/-- `_send_imu`.  The packet takes a number also if there is no host. -/
def sendImu (s : DataStream) (p : ImuPacket) (host : Bool) (o : Sends) :
    Except SampleExn (DataStream × List Attempt) :=
  match packSamples 0 (Samples.imu [p.sample]).tuples with
  | .error x => .error x
  | .ok data =>
    if host then
      match (DataPacket.ofHeader (p.header s.udpCnt) data).encode true with
      | .error x => .error (.exn x)
      | .ok bytes => .ok (s.next.sendData ⟨s.number, bytes⟩ s.udpCnt o)
    else .ok (s.next, [])

/-- What happens to the stream. -/
inductive ImuOp where
  | fault (cmd : Fault) (count depth : ℤ)
  | packet (p : ImuPacket) (host : Bool) (sends : Sends)

/-- The IMU stream of the simulator. -/
def runImu (s : DataStream) : List ImuOp → Except SampleExn (DataStream × List Attempt)
  | [] => .ok (s, [])
  | .fault cmd count depth :: ops => runImu (s.control cmd count depth) ops
  | .packet p host sends :: ops =>
    match sendImu s p host sends with
    | .error x => .error x
    | .ok here =>
      match runImu here.1 ops with
      | .error x => .error x
      | .ok rest => .ok (rest.1, here.2 ++ rest.2)

/-! ## Nothing raises -/

namespace DataStream

/-- The stream with the packets on the wire. -/
def step (s : DataStream) : ImuOp → DataStream × List Attempt
  | .fault cmd count depth => (s.control cmd count depth, [])
  | .packet p host sends =>
    if host then s.next.sendData ⟨s.number, p.datagram s.udpCnt⟩ s.udpCnt sends
    else (s.next, [])

def run (s : DataStream) : List ImuOp → DataStream × List Attempt
  | [] => (s, [])
  | op :: ops => ((run (s.step op).1 ops).1, (s.step op).2 ++ (run (s.step op).1 ops).2)

end DataStream

theorem sendImu_eq (s : DataStream) (p : ImuPacket) (host : Bool) (o : Sends) :
    sendImu s p host o = .ok (s.step (.packet p host o)) := by
  have hpack : packSamples 0 (Samples.imu [p.sample]).tuples =
      .ok (Samples.imu [p.sample]).bytes := Python.packSamples_tuples (Samples.imu [p.sample])
  have hlength : (Samples.imu [p.sample]).bytes.length = 24 := Samples.bytes_length _
  have hencode : (DataPacket.ofHeader (p.header s.udpCnt) (Samples.imu [p.sample]).bytes).encode
      true = .ok (p.datagram s.udpCnt) :=
    DataPacket.encode_ofHeader true rfl (by rw [hlength]; decide)
  rw [sendImu, hpack]
  simp only [hencode]
  cases host <;> rfl

theorem runImu_eq (s : DataStream) (ops : List ImuOp) : runImu s ops = .ok (s.run ops) := by
  induction ops generalizing s with
  | nil => rfl
  | cons op ops ih =>
    cases op with
    | fault => exact ih _
    | packet =>
      rw [runImu, sendImu_eq]
      dsimp only
      rw [ih]
      rfl

/-! ## Counts -/

/-- The datagrams that left. -/
def arrived (attempts : List Attempt) : List Numbered :=
  (attempts.filter Attempt.left).map Attempt.data

/-- The packets that were to be sent and did not leave. -/
def unsent (attempts : List Attempt) : ℕ :=
  (attempts.filter fun a => !a.again && !a.left).length

@[simp] theorem arrived_nil : arrived [] = [] := rfl

@[simp] theorem arrived_append (as bs : List Attempt) :
    arrived (as ++ bs) = arrived as ++ arrived bs := by
  simp [arrived]

@[simp] theorem unsent_nil : unsent [] = 0 := rfl

@[simp] theorem unsent_append (as bs : List Attempt) :
    unsent (as ++ bs) = unsent as + unsent bs := by
  simp [unsent]

/-- The packets of an operation that have no host to go to. -/
def ImuOp.hostless : ImuOp → ℕ
  | .packet _ false _ => 1
  | _ => 0

def hostless (ops : List ImuOp) : ℕ :=
  (ops.map ImuOp.hostless).sum

namespace DataStream

/-- Whether a packet is held back, as a number. -/
def heldCount (s : DataStream) : ℕ :=
  if s.faults.held.isSome then 1 else 0

/-- The packet leaves, or fails to; behind it come its copies, and what was held back. -/
structure Passes (s s' : DataStream) (data : Numbered) (o : Sends) (copies late : List Attempt) :
    Prop where
  number : s'.number = s.number
  udpCnt : s'.udpCnt = s.udpCnt
  dropped : s'.dropped = s.dropped
  sent : s'.sent = s.sent + (if o.first then 1 else 0) + (arrived late).length
  duplicated : s'.duplicated = s.duplicated + (arrived copies).length
  reordered : s'.reordered = s.reordered + (arrived late).length
  heldCount : s'.heldCount + unsent late + (arrived late).length = s.heldCount
  unsent_copies : unsent copies = 0
  copies : ∀ a ∈ arrived copies, a = data
  late : ∀ a ∈ arrived late, ∃ h ∈ s.faults.held, a = h.1
  held : ∀ h' ∈ s'.faults.held, ∃ h ∈ s.faults.held, h'.1 = h.1

theorem passes (s : DataStream) (data : Numbered) (o : Sends) :
    Passes s (((s.countSent o.first).sendDuplicate data o.again).1.releaseHeld o.released).1 data o
      ((s.countSent o.first).sendDuplicate data o.again).2
      (((s.countSent o.first).sendDuplicate data o.again).1.releaseHeld o.released).2 := by
  obtain ⟨number, udpCnt, ⟨drop, reorder, depth, duplicate, held⟩, sent, dropped, reordered,
    duplicated⟩ := s
  obtain ⟨first, again, released⟩ := o
  rcases held with _ | ⟨late, heldCnt, toPass⟩
  · by_cases hdup : duplicate > 0 <;> cases again <;> constructor <;>
      simp [countSent, sendDuplicate, releaseHeld, hdup, heldCount, arrived, unsent]
  · by_cases hdup : duplicate > 0 <;> by_cases hpass : toPass > 1 <;> cases again <;>
      cases released <;> constructor <;>
      simp [countSent, sendDuplicate, releaseHeld, hdup, hpass, heldCount, arrived, unsent]

variable {s s' : DataStream} {out : List Attempt}

section Send

variable {data : Numbered} {udpCnt : ℕ} {o : Sends}

/-- **What `_send_data` can do**: drop the packet, hold it back, or send it. -/
theorem sendData_cases (h : s.sendData data udpCnt o = (s', out)) :
    (out = [] ∧ s' = { s with
      faults := { s.faults with drop := s.faults.drop - 1 }
      dropped := s.dropped + 1 }) ∨
    (out = [] ∧ s.faults.held = none ∧ s' = { s with
      faults := { s.faults with
        reorder := s.faults.reorder - 1
        held := some (data, udpCnt, s.faults.depth) } }) ∨
    ∃ copies late, Passes s s' data o copies late ∧
      out = ⟨data, false, o.first⟩ :: (copies ++ late) := by
  unfold sendData at h
  dsimp only at h
  split_ifs at h with hdrop hhold
  · cases h
    exact .inl ⟨rfl, rfl⟩
  · cases h
    exact .inr (.inl ⟨rfl, Option.isNone_iff_eq_none.mp hhold.1, rfl⟩)
  · cases h
    exact .inr (.inr ⟨_, _, passes s data o, rfl⟩)

/-- **What one packet does to the counts.**  It is sent, dropped, held back or lost on the
way out; and so is a packet that was held back, once it is set free. -/
theorem sendData_counts (h : s.sendData data udpCnt o = (s', out)) :
    s'.number = s.number ∧ s'.udpCnt = s.udpCnt ∧
      s'.sent + s'.dropped + s'.heldCount + unsent out = s.sent + s.dropped + s.heldCount + 1 ∧
      s'.sent + s'.duplicated = s.sent + s.duplicated + (arrived out).length := by
  obtain ⟨rfl, rfl⟩ | ⟨rfl, hnone, rfl⟩ | ⟨copies, late, hp, rfl⟩ := sendData_cases h
  · refine ⟨rfl, rfl, ?_, rfl⟩
    simp only [heldCount, unsent_nil]
    omega
  · refine ⟨rfl, rfl, ?_, rfl⟩
    simp [heldCount, hnone]
  · have hheld := hp.heldCount
    have hfirst : unsent [⟨data, false, o.first⟩] + (if o.first then 1 else 0) = 1 ∧
        (arrived [⟨data, false, o.first⟩]).length = if o.first then 1 else 0 := by
      cases o.first <;> exact ⟨rfl, rfl⟩
    rw [← List.singleton_append, arrived_append, arrived_append, unsent_append, unsent_append,
      List.length_append, List.length_append, hp.unsent_copies, hp.sent, hp.dropped, hp.duplicated]
    exact ⟨hp.number, hp.udpCnt, by omega, by omega⟩

/-- What holds of the packet and of the one that is held back holds of all that leaves. -/
theorem sendData_forall {P : Numbered → Prop} (h : s.sendData data udpCnt o = (s', out))
    (hdata : P data) (hheld : ∀ h ∈ s.faults.held, P h.1) :
    (∀ a ∈ arrived out, P a) ∧ ∀ h ∈ s'.faults.held, P h.1 := by
  obtain ⟨rfl, rfl⟩ | ⟨rfl, -, rfl⟩ | ⟨copies, late, hp, rfl⟩ := sendData_cases h
  · exact ⟨by simp, hheld⟩
  · refine ⟨by simp, ?_⟩
    rintro _ ⟨⟩
    exact hdata
  · constructor
    · intro a ha
      rw [← List.singleton_append, arrived_append, arrived_append] at ha
      rcases List.mem_append.mp ha with ha | ha
      · cases hfirst : o.first <;> simp [arrived, hfirst] at ha
        rw [ha]
        exact hdata
      · rcases List.mem_append.mp ha with ha | ha
        · rw [hp.copies a ha]
          exact hdata
        · obtain ⟨h', hmem, rfl⟩ := hp.late a ha
          exact hheld h' hmem
    · intro h' hmem
      obtain ⟨h'', hmem'', heq⟩ := hp.held h' hmem
      rw [heq]
      exact hheld h'' hmem''

/-- When all datagrams leave, the packet raises the highest number sent, and what leaves
behind it does not. -/
theorem sendData_raises {m : ℤ} (h : s.sendData data udpCnt ⟨true, true, true⟩ = (s', out))
    (hm : m < data.number) (hheld : ∀ h ∈ s.faults.held, h.1.number < data.number) :
    (raises m ((arrived out).map Numbered.number)).length + s'.reordered + s'.duplicated =
      (arrived out).length + s.reordered + s.duplicated := by
  obtain ⟨rfl, rfl⟩ | ⟨rfl, -, rfl⟩ | ⟨copies, late, hp, rfl⟩ := sendData_cases h
  · simp [raises]
  · simp [raises]
  · -- nothing behind the packet has a higher number
    have hbehind : ∀ a ∈ (arrived (copies ++ late)).map Numbered.number, a ≤ data.number := by
      intro a ha
      obtain ⟨d, hd, rfl⟩ := List.mem_map.mp ha
      rw [arrived_append] at hd
      rcases List.mem_append.mp hd with hd | hd
      · rw [hp.copies d hd]
      · obtain ⟨h', hmem, rfl⟩ := hp.late d hd
        exact (hheld h' hmem).le
    have hhead : arrived (⟨data, false, true⟩ :: (copies ++ late)) =
        data :: arrived (copies ++ late) := rfl
    rw [hhead, List.map_cons, raises_cons_of_lt hm, raises_of_forall_le hbehind,
      List.length_singleton, List.length_cons, arrived_append, List.length_append, hp.reordered,
      hp.duplicated]
    omega

end Send

theorem addFault_held {f f' : PacketFaults} {cmd : Fault} {count depth : ℤ}
    (h : addFault f cmd count depth = .ok f') : f'.held = f.held := by
  cases cmd <;> simp only [addFault, Python.raise] at h <;> split_ifs at h <;>
    exact Except.ok.inj h ▸ rfl

/-- A control changes the pending faults only, and not the packet that is held back. -/
theorem control_eq (s : DataStream) (cmd : Fault) (count depth : ℤ) :
    ∃ faults, faults.held = s.faults.held ∧ s.control cmd count depth = { s with faults } := by
  unfold control
  cases h : addFault s.faults cmd count depth with
  | error => exact ⟨s.faults, rfl, rfl⟩
  | ok faults => exact ⟨faults, addFault_held h, rfl⟩

variable {op : ImuOp} {ops : List ImuOp}

theorem step_counts (h : s.step op = (s', out)) :
    (s'.sent + s'.dropped + s'.heldCount + unsent out + op.hostless + s.number : ℤ) =
        s.sent + s.dropped + s.heldCount + s'.number ∧
      s'.sent + s'.duplicated = s.sent + s.duplicated + (arrived out).length := by
  cases op with
  | fault cmd count depth =>
    obtain ⟨faults, hheld, hcontrol⟩ := control_eq s cmd count depth
    rw [step, hcontrol] at h
    cases h
    simp [heldCount, hheld, ImuOp.hostless]
  | packet p host sends =>
    have hsame : s.next.sent = s.sent ∧ s.next.dropped = s.dropped ∧
        s.next.duplicated = s.duplicated ∧ s.next.heldCount = s.heldCount ∧
        s.next.number = s.number + 1 := ⟨rfl, rfl, rfl, rfl, rfl⟩
    cases host with
    | false =>
      have hone : (ImuOp.packet p false sends).hostless = 1 := rfl
      cases h
      rw [hone, unsent_nil, arrived_nil, List.length_nil]
      constructor <;> omega
    | true =>
      have hnone : (ImuOp.packet p true sends).hostless = 0 := rfl
      obtain ⟨hnumber, -, hcount, harrived⟩ := sendData_counts h
      rw [hnone]
      constructor <;> omega

theorem run_cons (h : s.run (op :: ops) = (s', out)) :
    ∃ s₁ here rest, s.step op = (s₁, here) ∧ s₁.run ops = (s', rest) ∧ out = here ++ rest := by
  cases h
  exact ⟨_, _, _, rfl, rfl, rfl⟩

/-- **The counts of a run**: every number is accounted for once, and every datagram that
left was counted. -/
theorem run_counts (h : s.run ops = (s', out)) :
    (s'.sent + s'.dropped + s'.heldCount + unsent out + hostless ops + s.number : ℤ) =
        s.sent + s.dropped + s.heldCount + s'.number ∧
      s'.sent + s'.duplicated = s.sent + s.duplicated + (arrived out).length := by
  induction ops generalizing s out with
  | nil =>
    cases h
    simp [hostless]
  | cons op ops ih =>
    obtain ⟨s₁, here, rest, hstep, hrest, rfl⟩ := run_cons h
    obtain ⟨hcount, harrived⟩ := step_counts hstep
    obtain ⟨hcount', harrived'⟩ := ih hrest
    have hhostless : hostless (op :: ops) = op.hostless + hostless ops := List.sum_cons
    rw [hhostless, unsent_append, arrived_append, List.length_append]
    push_cast
    constructor <;> omega

/-! ## Numbers that do not wrap -/

/-- The datagram is an IMU packet with its number. -/
def IsImu (d : Numbered) : Prop :=
  ∃ p : ImuPacket, d.bytes = p.datagram (d.number % 65536).toNat

/-- `udp_cnt` is the number in sixteen bits, and the packet that is held back comes from
before. -/
structure InStep (s : DataStream) : Prop where
  udpCnt : s.udpCnt = (s.number % 65536).toNat
  held : ∀ h ∈ s.faults.held, h.1.number < s.number ∧ IsImu h.1

/-- **One step.** -/
theorem InStep.step (h : s.InStep) (hstep : s.step op = (s', out)) :
    s'.InStep ∧ s.number ≤ s'.number ∧ ∀ a ∈ arrived out, a.number < s'.number ∧ IsImu a := by
  have hcnt : s.next.udpCnt = (s.next.number % 65536).toNat := by
    simp only [next, h.udpCnt]
    omega
  have hlater : s.number < s.next.number := Int.lt_succ s.number
  cases op with
  | fault cmd count depth =>
    obtain ⟨faults, hheld, hcontrol⟩ := control_eq s cmd count depth
    rw [DataStream.step, hcontrol] at hstep
    cases hstep
    exact ⟨⟨h.udpCnt, by rw [hheld]; exact h.held⟩, le_rfl, by simp⟩
  | packet p host =>
    have hheld : ∀ h ∈ s.next.faults.held, h.1.number < s.next.number ∧ IsImu h.1 :=
      fun h' hmem => ⟨(h.held h' hmem).1.trans hlater, (h.held h' hmem).2⟩
    cases host with
    | false =>
      cases hstep
      exact ⟨⟨hcnt, hheld⟩, hlater.le, by simp⟩
    | true =>
      obtain ⟨hnumber, hudp, -, -⟩ := sendData_counts hstep
      obtain ⟨hleft, hheld'⟩ := sendData_forall
        (P := fun d => d.number < s.next.number ∧ IsImu d) hstep ⟨hlater, p, by rw [h.udpCnt]⟩ hheld
      rw [hnumber]
      exact ⟨⟨by rw [hudp, hnumber, hcnt], by rw [hnumber]; exact hheld'⟩, hlater.le, hleft⟩

theorem InStep.run (h : s.InStep) (hrun : s.run ops = (s', out)) : ∀ a ∈ arrived out, IsImu a := by
  induction ops generalizing s out with
  | nil =>
    cases hrun
    simp
  | cons op ops ih =>
    obtain ⟨s₁, here, rest, hstep, hrest, rfl⟩ := run_cons hrun
    obtain ⟨hnext, -, harrived⟩ := h.step hstep
    rw [arrived_append]
    intro a ha
    rcases List.mem_append.mp ha with ha | ha
    · exact (harrived a ha).2
    · exact ih hnext hrest a ha

end DataStream

/-- Every datagram of the operation leaves. -/
def ImuOp.Leaves : ImuOp → Prop
  | .fault .. => True
  | .packet _ _ sends => sends = ⟨true, true, true⟩

namespace DataStream

variable {s s' : DataStream} {out : List Attempt} {op : ImuOp} {ops : List ImuOp} {m : ℤ}

/-- When all datagrams leave, a step adds to the late datagrams what it counts as
reordered or duplicated. -/
theorem InStep.step_raises (h : s.InStep) (hstep : s.step op = (s', out)) (hleaves : op.Leaves)
    (hm : m < s.number) :
    (raises m ((arrived out).map Numbered.number)).length + s'.reordered + s'.duplicated =
      (arrived out).length + s.reordered + s.duplicated := by
  cases op with
  | fault cmd count depth =>
    obtain ⟨faults, -, hcontrol⟩ := control_eq s cmd count depth
    rw [DataStream.step, hcontrol] at hstep
    cases hstep
    simp [raises]
  | packet p host =>
    obtain rfl := hleaves
    cases host with
    | false =>
      cases hstep
      simp [next, raises]
    | true =>
      have hsend : s.next.sendData ⟨s.number, p.datagram s.udpCnt⟩ s.udpCnt ⟨true, true, true⟩ =
          (s', out) := hstep
      have hraises := sendData_raises hsend hm fun h' hmem => (h.held h' hmem).1
      exact hraises

theorem mark_lt {k : ℤ} {arrivals : List ℤ} (hm : m < k) (h : ∀ a ∈ arrivals, a < k) :
    mark m arrivals < k := by
  induction arrivals generalizing m with
  | nil => exact hm
  | cons a arrivals ih =>
    rw [mark_cons]
    refine ih ?_ fun b hb => h b (List.mem_cons_of_mem a hb)
    rw [HighWater.raise]
    split_ifs
    · exact h a List.mem_cons_self
    · exact hm

/-- **A run in which all datagrams leave**: those that do not raise the highest number are
the ones counted as reordered or duplicated. -/
theorem InStep.run_raises (h : s.InStep) (hrun : s.run ops = (s', out))
    (hleaves : ∀ op ∈ ops, op.Leaves) (hm : m < s.number) :
    (raises m ((arrived out).map Numbered.number)).length + s'.reordered + s'.duplicated =
      (arrived out).length + s.reordered + s.duplicated := by
  induction ops generalizing s out m with
  | nil =>
    cases hrun
    simp [raises]
  | cons op ops ih =>
    obtain ⟨s₁, here, rest, hstep, hrest, rfl⟩ := run_cons hrun
    obtain ⟨hleave, hleaves⟩ := List.forall_mem_cons.mp hleaves
    obtain ⟨hnext, hlater, harrived⟩ := h.step hstep
    have hhere := h.step_raises hstep hleave hm
    have hmark : mark m ((arrived here).map Numbered.number) < s₁.number := by
      refine mark_lt (by omega) fun a ha => ?_
      obtain ⟨d, hd, rfl⟩ := List.mem_map.mp ha
      exact (harrived d hd).1
    have hthere := ih hnext hrest hleaves hmark
    rw [arrived_append, List.map_append, raises_append, List.length_append, List.length_append]
    omega

end DataStream

end Simulator

/-! ## The host's counters -/

namespace DropCounter

/-- All that was reported as reordered. -/
def totalReordered (results : List Result) : ℕ :=
  (results.filter Result.reordered).length

theorem totalReordered_cons (r : Result) (results : List Result) :
    totalReordered (r :: results) = (if r.reordered then 1 else 0) + totalReordered results := by
  cases h : r.reordered <;> simp [totalReordered, h, Nat.add_comm]

/-- What does not raise the mark is reported as reordered. -/
theorem totalReordered_observeAll {m : ℤ} {arrivals : List ℤ} (h : InReach m arrivals) :
    totalReordered (observeAll ⟨true, wire m⟩ (arrivals.map wire)).1 +
      (raises m arrivals).length = arrivals.length := by
  induction arrivals generalizing m with
  | nil => rfl
  | cons s arrivals ih =>
    obtain ⟨hlow, hhigh, hrest⟩ := h
    obtain ⟨r, hobserve, hreordered, -⟩ := observe_wire hlow hhigh
    have htail := ih hrest
    rw [List.map_cons, observeAll_cons, hobserve, List.length_cons]
    rcases lt_or_ge m s with hlt | hle
    · have hr : r.reordered = false := by
        rw [← Bool.not_eq_true, hreordered]
        exact not_le.mpr hlt
      rw [raises_cons_of_lt hlt, List.length_cons, totalReordered_cons, hr]
      rw [raise_of_lt hlt] at htail ⊢
      simp only [Bool.false_eq_true, if_false]
      omega
    · have hr : r.reordered = true := hreordered.mpr hle
      rw [raises_cons_of_le hle, totalReordered_cons, hr, if_pos rfl]
      rw [raise_of_le hle] at htail ⊢
      dsimp only
      omega

end DropCounter

namespace DataPath

/-- No other thread has a request for the receive thread. -/
def Quiet (d : DataPath) : Prop :=
  d.discardRequested = false ∧ d.rebaseRequested = false ∧ d.policyPending = none

theorem Quiet.consumeRequests {d : DataPath} (h : d.Quiet) : d.consumeRequests = d := by
  obtain ⟨hdiscard, hrebase, hpolicy⟩ := h
  have h₁ : d.consumeDiscard = d := by simp [consumeDiscard, hdiscard]
  have h₂ : d.consumeRebase = d := by simp [consumeRebase, hrebase]
  have h₃ : d.consumePolicy = d := by simp [consumePolicy, hpolicy]
  rw [DataPath.consumeRequests, h₁, h₂, h₃]

/-- What an IMU packet does to the counters. -/
theorem onDatagram_imu {d : DataPath} (hquiet : d.Quiet) {data : List UInt8} {v : DataPacketView}
    (hparse : parseDataPacket data d.verifyCrc = .ok v) (himu : v.header.dataType = .kImu)
    (recvTimeNs : UInt64) :
    (d.onDatagram data recvTimeNs).2.Quiet ∧
    (d.onDatagram data recvTimeNs).2.verifyCrc = d.verifyCrc ∧
    (d.onDatagram data recvTimeNs).2.badPackets = d.badPackets ∧
    (d.onDatagram data recvTimeNs).2.imuSamples = d.imuSamples + v.header.dotNum.toNat ∧
    (d.onDatagram data recvTimeNs).2.imuDrops = (d.imuDrops.observe v.header.udpCnt false).2 ∧
    (d.onDatagram data recvTimeNs).2.imuDropped =
      d.imuDropped + (d.imuDrops.observe v.header.udpCnt false).1.dropped.toNat ∧
    (d.onDatagram data recvTimeNs).2.imuReordered = d.imuReordered +
      if (d.imuDrops.observe v.header.udpCnt false).1.reordered then 1 else 0 := by
  have hquiet' : Quiet { d with packets := d.packets + 1, lastPacketTimeNs := recvTimeNs } := hquiet
  have hreceived : d.received recvTimeNs =
      { d with packets := d.packets + 1, lastPacketTimeNs := recvTimeNs } :=
    hquiet'.consumeRequests
  rw [onDatagram, hparse]
  dsimp only
  rw [onPacket, hreceived, onSamples, if_pos himu]
  exact ⟨hquiet, rfl, rfl, rfl, rfl, rfl, rfl⟩

/-- The receive thread after the datagrams with their receive times. -/
def receiveAll (d : DataPath) : List (List UInt8 × UInt64) → DataPath
  | [] => d
  | (data, recvTimeNs) :: rest => receiveAll (d.onDatagram data recvTimeNs).2 rest

end DataPath

namespace Simulator

open DataStream (IsImu InStep)

/-- The host's counters are those of its `DropCounter` on the numbers in sixteen bits. -/
theorem receiveAll_imu {d : DataPath} (hquiet : d.Quiet) {left : List Numbered}
    (hleft : ∀ a ∈ left, IsImu a) {arrivals : List (List UInt8 × UInt64)}
    (harrivals : arrivals.map Prod.fst = left.map Numbered.bytes) :
    (d.receiveAll arrivals).badPackets = d.badPackets ∧
    (d.receiveAll arrivals).imuSamples = d.imuSamples + left.length ∧
    (d.receiveAll arrivals).imuDropped = d.imuDropped + DropCounter.totalDropped
      (d.imuDrops.observeAll ((left.map Numbered.number).map DropCounter.wire)).1 ∧
    (d.receiveAll arrivals).imuReordered = d.imuReordered + DropCounter.totalReordered
      (d.imuDrops.observeAll ((left.map Numbered.number).map DropCounter.wire)).1 := by
  induction left generalizing d arrivals with
  | nil =>
    obtain rfl : arrivals = [] := List.map_eq_nil_iff.mp harrivals
    exact ⟨rfl, rfl, rfl, rfl⟩
  | cons a left ih =>
    obtain ⟨n, bytes⟩ := a
    cases arrivals with
    | nil => cases harrivals
    | cons arrival =>
      obtain ⟨data, recvTimeNs⟩ := arrival
      rw [List.map_cons, List.map_cons, List.cons.injEq] at harrivals
      obtain ⟨hdata, harrivals⟩ := harrivals
      obtain ⟨p, hp⟩ := hleft ⟨n, bytes⟩ List.mem_cons_self
      dsimp only at hdata hp
      subst hdata hp
      obtain ⟨v, hparse, htype, hdots, hcnt⟩ :=
        p.parseDataPacket_datagram (n % 65536).toNat d.verifyCrc
      obtain ⟨hquiet', -, hbad, hsamples, hdrops, hdropped, hreordered⟩ :=
        DataPath.onDatagram_imu hquiet hparse htype recvTimeNs
      obtain ⟨hbad', hsamples', hdropped', hreordered'⟩ :=
        ih hquiet' (fun b hb => hleft b (List.mem_cons_of_mem _ hb)) harrivals
      have hwire : UInt16.ofNat (n % 65536).toNat = DropCounter.wire n := rfl
      have hone : (1 : UInt16).toNat = 1 := rfl
      rw [hcnt, hwire] at hdrops hdropped hreordered
      rw [hdots, hone] at hsamples
      rw [DataPath.receiveAll, hbad', hbad, hsamples', hsamples, hdropped', hdropped,
        hreordered', hreordered, hdrops]
      simp only [List.map_cons, DropCounter.observeAll_cons, DropCounter.totalDropped_cons,
        DropCounter.totalReordered_cons, List.length_cons]
      exact ⟨trivial, by omega, by omega, by omega⟩

/-- **The faults that the simulator injects are the ones the host counts.**  The IMU stream
runs from power-on, with any controls in between; what leaves reaches the host in order.
Every datagram is accepted, and gives one sample.  With the numbers near the highest one
before them, the host's counts balance those of the simulator: `dropped` of the host, with
the packets before the first and behind the highest that it saw, is what the simulator
dropped, still holds, could not send or had no host for, and what came late, less the
copies.  If no send fails, what the host calls reordered is exactly what the simulator
reordered and duplicated. -/
theorem imu_faults_accounted (ops : List ImuOp) (verifyCrc : Bool) (framePolicy : FramePolicy)
    (timestampPolicy : TimestampPolicy) :
    ∃ s attempts, runImu {} ops = .ok (s, attempts) ∧
      ∀ arrivals : List (List UInt8 × UInt64),
        arrivals.map Prod.fst = (arrived attempts).map Numbered.bytes →
        ∀ host, host = (DataPath.new verifyCrc framePolicy timestampPolicy).receiveAll arrivals →
          host.badPackets = 0 ∧
          host.imuSamples = s.sent + s.duplicated ∧
          ∀ first rest, (arrived attempts).map Numbered.number = first :: rest →
            DropCounter.InReach first rest →
            (host.imuDropped : ℤ) + s.duplicated + first + (s.number - 1 - mark first rest) =
              host.imuReordered + s.dropped + s.heldCount + unsent attempts + hostless ops ∧
            ((∀ op ∈ ops, op.Leaves) → host.imuReordered = s.reordered + s.duplicated) := by
  obtain ⟨s, attempts, hrun⟩ : ∃ s attempts, ({} : DataStream).run ops = (s, attempts) :=
    ⟨_, _, rfl⟩
  refine ⟨s, attempts, by rw [runImu_eq, hrun], fun arrivals harrivals host hhost => ?_⟩
  have hstart : InStep {} := ⟨rfl, fun h hmem => by cases hmem⟩
  obtain ⟨hcount, hleft⟩ := DataStream.run_counts hrun
  obtain ⟨hbad, hsamples, hdropped, hreordered⟩ := receiveAll_imu
    (d := DataPath.new verifyCrc framePolicy timestampPolicy) ⟨rfl, rfl, rfl⟩
    (hstart.run hrun) harrivals
  have hzero : ({} : DataStream).sent = 0 ∧ ({} : DataStream).dropped = 0 ∧
      ({} : DataStream).duplicated = 0 ∧ ({} : DataStream).reordered = 0 ∧
      ({} : DataStream).heldCount = 0 ∧ ({} : DataStream).number = 0 :=
    ⟨rfl, rfl, rfl, rfl, rfl, rfl⟩
  have hnew : (DataPath.new verifyCrc framePolicy timestampPolicy).imuSamples = 0 ∧
      (DataPath.new verifyCrc framePolicy timestampPolicy).imuDropped = 0 ∧
      (DataPath.new verifyCrc framePolicy timestampPolicy).imuReordered = 0 := ⟨rfl, rfl, rfl⟩
  rw [← hhost] at hbad hsamples hdropped hreordered
  refine ⟨hbad, by omega, fun first rest hnumbers hreach => ?_⟩
  -- the counters of the host, from the mark
  have hmany := congrArg List.length hnumbers
  rw [List.length_map, List.length_cons] at hmany
  have hfirst : (DataPath.new verifyCrc framePolicy timestampPolicy).imuDrops = {} := rfl
  rw [hnumbers, hfirst, List.map_cons, DropCounter.observeAll_first,
    DropCounter.totalDropped_cons] at hdropped
  rw [hnumbers, hfirst, List.map_cons, DropCounter.observeAll_first,
    DropCounter.totalReordered_cons] at hreordered
  have htotal := (DropCounter.observeAll_wire hreach).2
  have hlate := DropCounter.totalReordered_observeAll hreach
  have hnone : (({} : DropCounter.Result).dropped.toNat = 0) ∧
      ((if ({} : DropCounter.Result).reordered then 1 else 0) = 0) := ⟨rfl, rfl⟩
  refine ⟨by omega, fun hleaves => ?_⟩
  -- below all numbers there is a mark that the first packet raises
  have hraises := hstart.run_raises hrun hleaves (m := -1 - first.natAbs) (by omega)
  rw [hnumbers, raises_cons_of_lt (by omega), List.length_cons] at hraises
  omega

/-- One packet of the stream, sent to a host. -/
def somePacket : ImuOp :=
  .packet ⟨0, .kNoSync, 0, ⟨0, 0, 0, 0, 0, 0⟩⟩ true ⟨true, true, true⟩

/-- Packet 1 is dropped, packet 2 comes behind packet 3, and packet 4 comes twice. -/
def someFaults : List ImuOp :=
  [somePacket, .fault .drop 1 1, somePacket, .fault .reorder 1 1, somePacket, somePacket,
    .fault .duplicate 1 1, somePacket]

theorem imu_faults_accounted_some_faults :
    ∃ s attempts, runImu {} someFaults = .ok (s, attempts) ∧
      (arrived attempts).map Numbered.number = [0, 3, 2, 4, 4] ∧
      ∀ arrivals : List (List UInt8 × UInt64),
        arrivals.map Prod.fst = (arrived attempts).map Numbered.bytes →
        ∀ host, host = (DataPath.new true {} .kLidar).receiveAll arrivals →
          (host.imuDropped : ℤ) + s.duplicated =
            host.imuReordered + s.dropped + s.heldCount + unsent attempts ∧
          host.imuReordered = s.reordered + s.duplicated := by
  obtain ⟨s, attempts, hrun, h⟩ := imu_faults_accounted someFaults true {} .kLidar
  have hsame : ({} : DataStream).run someFaults = (s, attempts) :=
    Except.ok.inj ((runImu_eq {} someFaults).symm.trans hrun)
  have hnumbers : (arrived attempts).map Numbered.number = [0, 3, 2, 4, 4] :=
    congrArg (fun r => (arrived r.2).map Numbered.number) hsame.symm
  have hnumber : s.number = 5 := congrArg (fun r => r.1.number) hsame.symm
  refine ⟨s, attempts, hrun, hnumbers, fun arrivals harrivals host hhost => ?_⟩
  obtain ⟨-, -, hcounts⟩ := h arrivals harrivals host hhost
  obtain ⟨hbalance, hlate⟩ := hcounts 0 [3, 2, 4, 4] hnumbers (by decide)
  have hmark : mark 0 [3, 2, 4, 4] = 4 := by decide
  have hhosts : hostless someFaults = 0 := rfl
  rw [hmark, hnumber, hhosts] at hbalance
  refine ⟨by push_cast at hbalance; omega, hlate ?_⟩
  simp [someFaults, somePacket, ImuOp.Leaves]

end Simulator

end LivoxMid360
