import LivoxMid360.FirmwareLog
import LivoxMid360.Protocol.Commands
import LivoxMid360.Lib.FileTransfer
import Mathlib.Logic.Function.Basic

/-!
# The log port

`on_log` takes every datagram of the log port: the ACK that a command thread waits for, and
the chunks of the firmware log.  For each log type it keeps the number of the last chunk, and
a chunk of the same file with any other number than the next raises `kFirmwareLogGap`.

The LiDAR's side is a `FileTransfer`: it numbers its files and their chunks, may resend the
chunk it sent last, and some of it is lost.  `LidarLog` says so of a list of what happens at
the port, for both types together and with anything else in between.

* `checkGaps_track`: what the port remembers of a type is its last chunk.
* `firmware_log_gap_iff`: a chunk raises a gap if and only if one between it and the chunk of
  its file that came before never arrived, **or it repeats that chunk and is neither the
  first nor flagged as the last of its file**.  `resent_chunk_raises_gap` is such a repeat,
  with nothing lost.
-/

namespace LivoxMid360

open LittleEndian FileTransfer

/-! ## `on_log` -/

structure LogTrack where
  active : Bool := false
  fileIndex : UInt8 := 0
  lastTrans : UInt32 := 0
deriving DecidableEq, Repr

/-- The fields of the event `kFirmwareLogGap`. -/
structure LogGap where
  timeNs : UInt64
  logFileIndex : UInt8
  logExpected : UInt32
  logActual : UInt32
deriving DecidableEq, Repr

structure FirmwareLogChunk where
  header : FirmwareLogPushHeader
  hostReceiveTimeNs : UInt64
  data : List UInt8
deriving DecidableEq, Repr

/-- A datagram of the log port, with the clock as `realtime_now_ns` reads it and whether a
send succeeds. -/
structure LogDatagram where
  data : List UInt8
  sender : Endpoint
  recvTimeNs : UInt64 := 0
  realtimeNowNs : UInt64 := 0
  sendOk : Bool := true

/-- What goes out: to the event callback, to the LiDAR, to the callback for chunks. -/
inductive LogOutput where
  | gap (event : LogGap)
  | ack (frame : List UInt8) (dest : Endpoint)
  | chunk (chunk : FirmwareLogChunk)

/-- The members of a Device that `on_log` uses. -/
structure LogPort where
  badLogPackets : ℕ := 0
  logChunks : ℕ := 0
  logBytes : ℕ := 0
  logGaps : ℕ := 0
  logAcksSent : ℕ := 0
  lastLogTimeNs : UInt64 := 0
  logTrack : Fin 2 → LogTrack := fun _ => {}
  logAckSeq : UInt32 := 1
  logCmdWanted : UInt16 := 0
  logSeqWanted : UInt32 := 0
  logAck : Option RetCode := none
  logAckBad : Bool := false
  /-- There is a callback for events, and one for chunks. -/
  rxEventCb : Bool := false
  rxFirmwareLogCb : Bool := false

/-- The tracker of a type takes a chunk, and tells whether that is a gap. -/
def LogTrack.take (t : LogTrack) (ph : FirmwareLogPushHeader) : Bool × LogTrack :=
  -- only within a file that is open there is a number to expect
  let fresh : Bool := ph.flags.fileBegin || !t.active || t.fileIndex != ph.fileIndex
  (!fresh && ph.transIndex != t.lastTrans + 1,
    { active := !ph.flags.fileEnd
      fileIndex := if fresh then ph.fileIndex else t.fileIndex
      lastTrans := ph.transIndex })

namespace LogPort

variable (p : LogPort)

/-- The branch of an ACK. -/
def onAck (h : CommandHeader) (data : List UInt8) : LogPort :=
  if h.cmdId ≠ p.logCmdWanted ∨ h.seqNum ≠ p.logSeqWanted ∨ p.logAck.isSome ∨ p.logAckBad then p
  else
    match parseSimpleAck data with
    | .ok ret => { p with logAck := some ret }
    | .error _ => { p with logAckBad := true }

/-- The check of `trans_index`; types beyond the second are not checked. -/
def checkGaps (d : LogDatagram) (ph : FirmwareLogPushHeader) : List LogOutput × LogPort :=
  if h : ph.logType.raw.toNat < 2 then
    let t := p.logTrack ⟨ph.logType.raw.toNat, h⟩
    let (gap, t') := t.take ph
    let p := { p with logTrack := Function.update p.logTrack ⟨ph.logType.raw.toNat, h⟩ t' }
    if gap then
      (if p.rxEventCb then
          [.gap
            { timeNs := d.realtimeNowNs
              logFileIndex := ph.fileIndex
              logExpected := t.lastTrans + 1
              logActual := ph.transIndex }]
        else [],
        { p with logGaps := p.logGaps + 1 })
    else ([], p)
  else ([], p)

/-- The answer to a push that asks for one. -/
def acknowledge (d : LogDatagram) (ph : FirmwareLogPushHeader) : List LogOutput × LogPort :=
  if ph.flags.ackRequested then
    let payload := encodeFirmwareLogPushAck
      { retCode := .kSuccess
        logType := ph.logType
        fileIndex := ph.fileIndex
        transIndex := ph.transIndex }
    let spec : CommandFrameSpec := { seqNum := p.logAckSeq, cmdId := kPushLog, data := payload }
    -- the number is used up whether or not the frame can be sent
    let p := { p with logAckSeq := p.logAckSeq + 1 }
    let buf := List.replicate (kCommandHeaderSize + kFirmwareLogPushAckSize) 0
    match encodeCommandFrame buf spec with
    | .error _ => ([], p)
    | .ok (n, buf) =>
      ([.ack (buf.take n) d.sender],
        if d.sendOk then { p with logAcksSent := p.logAcksSent + 1 } else p)
  else ([], p)

/-- A chunk: counted, checked, acknowledged and delivered. -/
def onChunk (d : LogDatagram) (push : FirmwareLogPushView) : List LogOutput × LogPort :=
  let p :=
    { p with
      logChunks := p.logChunks + 1
      logBytes := p.logBytes + push.data.length
      lastLogTimeNs := d.recvTimeNs }
  let (gap, p) := p.checkGaps d push.header
  let (ack, p) := p.acknowledge d push.header
  let chunk := { header := push.header, hostReceiveTimeNs := d.recvTimeNs, data := push.data }
  (gap ++ ack ++ if p.rxFirmwareLogCb then [.chunk chunk] else [], p)

def onLog (d : LogDatagram) : List LogOutput × LogPort :=
  match parseCommandFrame d.data with
  | .error _ => ([], { p with badLogPackets := p.badLogPackets + 1 })
  | .ok frame =>
    if frame.header.cmdType = .kAck then ([], p.onAck frame.header frame.data)
    else if frame.header.cmdId ≠ kPushLog then ([], p)
    else
      match parseFirmwareLogPush frame.data with
      | .error _ => ([], { p with badLogPackets := p.badLogPackets + 1 })
      | .ok push => p.onChunk d push

/-! ## What happens at the port -/

/-- A chunk that the LiDAR sends, with the datagram if it arrives; any other datagram; a
command thread that waits for its ACK; a change of the callbacks. -/
inductive Item where
  | sent (type : Fin 2) (s : Sent FirmwareLogPushView) (arrived : Option LogDatagram)
  | other (d : LogDatagram)
  | request (cmdId : UInt16) (seq : UInt32)
  | callbacks (event firmwareLog : Bool)

def step : Item → List LogOutput × LogPort
  | .sent _ _ none => ([], p)
  | .sent _ _ (some d) => p.onLog d
  | .other d => p.onLog d
  | .request cmdId seq =>
    ([], { p with logCmdWanted := cmdId, logSeqWanted := seq, logAck := none, logAckBad := false })
  | .callbacks event firmwareLog =>
    ([], { p with rxEventCb := event, rxFirmwareLogCb := firmwareLog })

def exec (items : List Item) : LogPort :=
  items.foldl (fun p item => (p.step item).2) p

/-- The stream of one type. -/
def streamOf (type : Fin 2) (items : List Item) : Transmission FirmwareLogPushView LogDatagram :=
  items.filterMap fun item =>
    match item with
    | .sent t s arrived => if t = type then some (s, arrived) else none
    | _ => none

/-- The chunk of the file that arrived last. -/
def lastArrival (type : Fin 2) (file : ℕ) (items : List Item) :
    Option (Sent FirmwareLogPushView × Option LogDatagram) :=
  (streamOf type items).reverse.find? fun x => x.2.isSome && x.1.file == file

/-! ## The LiDAR -/

/-- The datagram is a push, and this is what it carries. -/
def Carries (d : LogDatagram) (push : FirmwareLogPushView) : Prop :=
  ∃ frame, parseCommandFrame d.data = .ok frame ∧ frame.header.cmdType ≠ .kAck ∧
    frame.header.cmdId = kPushLog ∧ parseFirmwareLogPush frame.data = .ok push

/-- The header of a chunk says which it is.  File numbers are counted modulo 256 from `first`
on. -/
structure Announces (first : ℕ) (type : Fin 2) (s : Sent FirmwareLogPushView) : Prop where
  logType : s.body.header.logType.raw.toNat = type.val
  fileIndex : s.body.header.fileIndex = UInt8.ofNat (first + s.file)
  transIndex : s.body.header.transIndex.toNat = s.piece
  fileBegin : s.body.header.flags.fileBegin = decide (s.piece = 0)
  fileEnd : s.body.header.flags.fileEnd = s.last

/-- The LiDAR's log: for each type files in turn, their chunks in turn from zero on, each
possibly sent again before the next; the other datagrams are no chunks of these types. -/
structure LidarLog (first : Fin 2 → ℕ) (items : List Item) : Prop where
  announces : ∀ type s arrived, Item.sent type s arrived ∈ items → Announces (first type) type s
  carries : ∀ type s d, Item.sent type s (some d) ∈ items → Carries d s.body
  regular : ∀ type, Regular (streamOf type items)
  starts : ∀ type x, (streamOf type items).head? = some x → x.1.piece = 0
  others : ∀ d push, Item.other d ∈ items → Carries d push → 2 ≤ push.header.logType.raw.toNat

/-! ## What the port remembers -/

end LogPort

/-- The tracker after a chunk. -/
def LogTrack.after (ph : FirmwareLogPushHeader) : LogTrack where
  active := !ph.flags.fileEnd
  fileIndex := ph.fileIndex
  lastTrans := ph.transIndex

/-- Whatever it was before, a chunk leaves its own numbers in the tracker. -/
theorem LogTrack.take_snd (t : LogTrack) (ph : FirmwareLogPushHeader) :
    (t.take ph).2 = .after ph := by
  simp only [LogTrack.take, LogTrack.after]
  split_ifs with hfresh
  · rfl
  · have hsame : t.fileIndex = ph.fileIndex := by
      by_contra hne
      exact hfresh (by simp [hne])
    rw [hsame]

/-- A gap behind a chunk with the header `last`. -/
theorem LogTrack.take_after_iff (last ph : FirmwareLogPushHeader) :
    ((LogTrack.after last).take ph).1 = true ↔
      ph.flags.fileBegin = false ∧ last.flags.fileEnd = false ∧
        last.fileIndex = ph.fileIndex ∧ ph.transIndex ≠ last.transIndex + 1 := by
  simp only [LogTrack.take, LogTrack.after, Bool.and_eq_true, Bool.not_eq_true',
    Bool.or_eq_false_iff, Bool.not_not, bne_eq_false_iff_eq, bne_iff_ne, and_assoc]

namespace LogPort

variable {p : LogPort} {d : LogDatagram} {push : FirmwareLogPushView} {type : Fin 2}

theorem onLog_of_carries (h : Carries d push) : p.onLog d = p.onChunk d push := by
  obtain ⟨frame, hframe, htype, hid, hpush⟩ := h
  simp only [onLog, hframe, htype, hid, hpush, if_false, ne_eq, not_true_eq_false]

/-- The answer leaves the check alone. -/
theorem acknowledge_frame (p : LogPort) (d : LogDatagram) (ph : FirmwareLogPushHeader) :
    (p.acknowledge d ph).2.logTrack = p.logTrack ∧ (p.acknowledge d ph).2.logGaps = p.logGaps ∧
      ∀ g, LogOutput.gap g ∉ (p.acknowledge d ph).1 := by
  unfold acknowledge
  dsimp only
  split_ifs
  · split <;> exact ⟨rfl, rfl, fun g hg => absurd hg (by simp)⟩
  · split <;> exact ⟨rfl, rfl, fun g hg => absurd hg (by simp)⟩
  · exact ⟨rfl, rfl, fun g hg => absurd hg (by simp)⟩

variable {ph : FirmwareLogPushHeader}

/-- A chunk of a type that is not checked. -/
theorem checkGaps_of_ge (p : LogPort) (d : LogDatagram) (h : 2 ≤ ph.logType.raw.toNat) :
    p.checkGaps d ph = ([], p) := by
  rw [checkGaps, dif_neg (Nat.not_lt.mpr h)]

/-- The event of a gap. -/
def gapEvent (t : LogTrack) (d : LogDatagram) (ph : FirmwareLogPushHeader) : LogGap where
  timeNs := d.realtimeNowNs
  logFileIndex := ph.fileIndex
  logExpected := t.lastTrans + 1
  logActual := ph.transIndex

/-- A chunk of a type that is checked: the tracker takes it, and a gap is counted and told to
the callback. -/
theorem checkGaps_of_type (p : LogPort) (d : LogDatagram) (h : ph.logType.raw.toNat = type.val) :
    p.checkGaps d ph =
      if ((p.logTrack type).take ph).1 then
        (if p.rxEventCb then [.gap (gapEvent (p.logTrack type) d ph)] else [],
          { p with
            logTrack := Function.update p.logTrack type (.after ph)
            logGaps := p.logGaps + 1 })
      else ([], { p with logTrack := Function.update p.logTrack type (.after ph) }) := by
  have hlt : ph.logType.raw.toNat < 2 := h ▸ type.isLt
  obtain rfl : (⟨ph.logType.raw.toNat, hlt⟩ : Fin 2) = type := Fin.ext h
  rw [checkGaps, dif_pos hlt, ← LogTrack.take_snd (p.logTrack ⟨ph.logType.raw.toNat, hlt⟩) ph]
  rfl

/-- What `on_log` does with a chunk to the tracker, the counter and the callback. -/
structure Taken (p : LogPort) (type : Fin 2) (d : LogDatagram) (ph : FirmwareLogPushHeader)
    (out : List LogOutput) (p' : LogPort) : Prop where
  track : p'.logTrack = Function.update p.logTrack type (.after ph)
  gaps : p'.logGaps = if ((p.logTrack type).take ph).1 then p.logGaps + 1 else p.logGaps
  event : ∀ g, LogOutput.gap g ∈ out ↔
    ((p.logTrack type).take ph).1 = true ∧ p.rxEventCb = true ∧ g = gapEvent (p.logTrack type) d ph

theorem taken_checkGaps (h : ph.logType.raw.toNat = type.val) :
    Taken p type d ph (p.checkGaps d ph).1 (p.checkGaps d ph).2 := by
  rw [checkGaps_of_type p d h]
  by_cases hgap : ((p.logTrack type).take ph).1 = true
  · rw [if_pos hgap]
    refine ⟨rfl, (if_pos hgap).symm, fun g => ?_⟩
    by_cases hcallback : p.rxEventCb = true
    · simp [hgap, hcallback]
    · simp [hcallback]
  · rw [if_neg hgap]
    exact ⟨rfl, (if_neg hgap).symm, fun g => by simp [hgap]⟩

/-- What comes after the check changes none of it. -/
theorem Taken.append {out out' : List LogOutput} {p' p'' : LogPort} (h : Taken p type d ph out p')
    (htrack : p''.logTrack = p'.logTrack) (hgaps : p''.logGaps = p'.logGaps)
    (hnone : ∀ g, LogOutput.gap g ∉ out') : Taken p type d ph (out ++ out') p'' where
  track := htrack.trans h.track
  gaps := hgaps.trans h.gaps
  event := by
    intro g
    rw [List.mem_append, ← h.event g]
    exact ⟨fun hmem => hmem.resolve_right (hnone g), .inl⟩

theorem taken_onChunk (h : push.header.logType.raw.toNat = type.val) :
    Taken p type d push.header (p.onChunk d push).1 (p.onChunk d push).2 := by
  unfold onChunk
  dsimp only
  -- the three counters at the top are not read again
  generalize hcounted : ({ p with
      logChunks := p.logChunks + 1
      logBytes := p.logBytes + push.data.length
      lastLogTimeNs := d.recvTimeNs } : LogPort) = q
  have htaken : Taken q type d push.header (q.checkGaps d push.header).1
      (q.checkGaps d push.header).2 := taken_checkGaps h
  have hsame : Taken p type d push.header (q.checkGaps d push.header).1
      (q.checkGaps d push.header).2 := by
    subst hcounted
    exact ⟨htaken.track, htaken.gaps, htaken.event⟩
  obtain ⟨htrack, hgaps, hnone⟩ := acknowledge_frame (q.checkGaps d push.header).2 d push.header
  refine (hsame.append htrack hgaps hnone).append rfl rfl fun g hg => ?_
  split_ifs at hg <;> exact absurd hg (by simp)

/-! ## Between the chunks -/

/-- Other datagrams leave the trackers alone. -/
theorem onLog_track_of_other (h : ∀ push, Carries d push → 2 ≤ push.header.logType.raw.toNat) :
    (p.onLog d).2.logTrack = p.logTrack := by
  by_cases hpush : ∃ push, Carries d push
  · obtain ⟨push, hpush⟩ := hpush
    rw [onLog_of_carries hpush]
    unfold onChunk
    dsimp only
    rw [checkGaps_of_ge _ _ (h push hpush)]
    exact (acknowledge_frame _ d push.header).1
  · unfold onLog
    cases hframe : parseCommandFrame d.data with
    | error => rfl
    | ok frame =>
      dsimp only
      split_ifs with hack hid
      · unfold onAck
        split_ifs
        · rfl
        · split <;> rfl
      · rfl
      · cases hparse : parseFirmwareLogPush frame.data with
        | error => rfl
        | ok push => exact absurd ⟨push, frame, hframe, hack, not_not.mp hid, hparse⟩ hpush

theorem exec_concat (p : LogPort) (items : List Item) (item : Item) :
    p.exec (items ++ [item]) = ((p.exec items).step item).2 := by
  rw [exec, List.foldl_append]
  rfl

theorem streamOf_append (type : Fin 2) (items items' : List Item) :
    streamOf type (items ++ items') = streamOf type items ++ streamOf type items' :=
  List.filterMap_append

theorem mem_of_mem_streamOf {items : List Item}
    {x : Sent FirmwareLogPushView × Option LogDatagram} (h : x ∈ streamOf type items) :
    Item.sent type x.1 x.2 ∈ items := by
  obtain ⟨item, hmem, hitem⟩ := List.mem_filterMap.mp h
  cases item with
  | sent =>
    dsimp only at hitem
    split_ifs at hitem with ht
    cases hitem
    rw [← ht]
    exact hmem
  | other => exact absurd hitem (by simp)
  | request => exact absurd hitem (by simp)
  | callbacks => exact absurd hitem (by simp)

/-- One item: a chunk of the type that arrives is remembered, and nothing else changes what
is. -/
theorem step_track (type : Fin 2) (p : LogPort) (item : Item)
    (hsent : ∀ t s d, item = .sent t s (some d) →
      s.body.header.logType.raw.toNat = t.val ∧ Carries d s.body)
    (hother : ∀ d push, item = .other d → Carries d push → 2 ≤ push.header.logType.raw.toNat) :
    (∃ s d, item = .sent type s (some d) ∧
        (p.step item).2.logTrack type = .after s.body.header) ∨
      ((∀ s d, item ≠ .sent type s (some d)) ∧
        (p.step item).2.logTrack type = p.logTrack type) := by
  cases item with
  | sent t s arrived =>
    cases arrived with
    | none => exact .inr ⟨fun s' d' => by simp, rfl⟩
    | some d =>
      obtain ⟨htype, hcarries⟩ := hsent t s d rfl
      have htaken : Taken p t d s.body.header _ _ := taken_onChunk htype
      rw [← onLog_of_carries hcarries] at htaken
      have hstep : (p.step (.sent t s (some d))).2.logTrack = _ := htaken.track
      rw [hstep]
      by_cases ht : t = type
      · subst ht
        exact .inl ⟨s, d, rfl, Function.update_self ..⟩
      · exact .inr ⟨fun s' d' h => ht (Item.sent.inj h).1, Function.update_of_ne (Ne.symm ht) ..⟩
  | other d =>
    have hkept : (p.onLog d).2.logTrack = p.logTrack :=
      onLog_track_of_other fun push => hother d push rfl
    exact .inr ⟨fun s' d' => by simp, congrFun hkept type⟩
  | request | callbacks => exact .inr ⟨fun s' d' => by simp, rfl⟩

/-- **What the port remembers of a type is the chunk of it that arrived last.** -/
theorem exec_track {items : List Item}
    (hsent : ∀ t s d, Item.sent t s (some d) ∈ items →
      s.body.header.logType.raw.toNat = t.val ∧ Carries d s.body)
    (hother : ∀ d push, Item.other d ∈ items → Carries d push → 2 ≤ push.header.logType.raw.toNat)
    {x : Sent FirmwareLogPushView × Option LogDatagram}
    (hx : (streamOf type items).reverse.find? (fun y => y.2.isSome) = some x) :
    (p.exec items).logTrack type = .after x.1.body.header := by
  -- from the end: the last item is the chunk, or it changes neither side
  induction items using List.reverseRecOn with
  | nil => exact absurd hx (by simp [streamOf])
  | append_singleton items item ih =>
    rw [streamOf_append, List.reverse_append, List.find?_append] at hx
    rw [exec_concat]
    have hstep := step_track type (p.exec items) item
      (fun t s d h => hsent t s d (by simp [h])) fun d push h => hother d push (by simp [h])
    rcases hstep with ⟨s, d, rfl, htrack⟩ | ⟨hnot, htrack⟩
    · obtain rfl : (s, some d) = x := by simpa [streamOf] using hx
      exact htrack
    · have hskip : (streamOf type [item]).reverse.find? (fun y => y.2.isSome) = none := by
        rw [List.find?_eq_none]
        intro y hy harrived
        obtain ⟨d, hd⟩ := Option.isSome_iff_exists.mp harrived
        have hmem := mem_of_mem_streamOf (List.mem_reverse.mp hy)
        rw [hd, List.mem_singleton] at hmem
        exact hnot y.1 d hmem.symm
      rw [hskip, Option.none_or] at hx
      rw [htrack]
      exact ih (fun t s d hmem => hsent t s d (by simp [hmem]))
        (fun d push hmem => hother d push (by simp [hmem])) hx

/-! ## Gaps -/

variable {first : Fin 2 → ℕ} {before after : List Item} {c : Sent FirmwareLogPushView}
  {q : Sent FirmwareLogPushView × Option LogDatagram}

/-- The chunk is the next of its file to arrive behind the one that `lastArrival` gives. -/
theorem previous_of_lastArrival (hq : lastArrival type c.file before = some q) (d : LogDatagram)
    (after : List Item) :
    ∃ pre mid a, q.2 = some a ∧ streamOf type before = pre ++ q :: mid ∧
      Previous (streamOf type (before ++ .sent type c (some d) :: after)) pre q.1 a mid c d
        (streamOf type after) := by
  obtain ⟨hfound, behind, front, hsplit, hbehind⟩ := List.find?_eq_some_iff_append.mp hq
  rw [Bool.and_eq_true, beq_iff_eq] at hfound
  obtain ⟨a, ha⟩ := Option.isSome_iff_exists.mp hfound.1
  have hstream : streamOf type before = front.reverse ++ q :: behind.reverse := by
    rw [← List.reverse_reverse (streamOf type before), hsplit]
    simp
  refine ⟨front.reverse, behind.reverse, a, ha, hstream, ?_, hfound.2, ?_⟩
  · rw [streamOf_append, hstream, ← ha]
    simp [streamOf]
  · intro x hx harrived hfile
    have hnot := hbehind x (List.mem_reverse.mp hx)
    simp [harrived, hfile] at hnot

/-- The tracker that a chunk meets is that of the chunk of its file before it. -/
theorem track_of_lastArrival (h : LidarLog first (before ++ .sent type c (some d) :: after))
    (hq : lastArrival type c.file before = some q) :
    (p.exec before).logTrack type = .after q.1.body.header := by
  obtain ⟨pre, mid, a, ha, hstream, hprevious⟩ := previous_of_lastArrival hq d after
  apply exec_track
  · intro t s d' hmem
    have hmem : Item.sent t s (some d') ∈ before ++ .sent type c (some d) :: after := by
      simp [hmem]
    exact ⟨(h.announces t s _ hmem).logType, h.carries t s d' hmem⟩
  · exact fun d' push hmem => h.others d' push (by simp [hmem])
  · -- nothing at all arrived in between
    rw [hstream, List.reverse_append, List.reverse_cons, List.append_assoc, List.find?_append]
    have hquiet : mid.reverse.find? (fun y => y.2.isSome) = none := by
      rw [List.find?_eq_none]
      intro x hx
      rw [hprevious.quiet (h.regular type) x (List.mem_reverse.mp hx)]
      simp
    rw [hquiet]
    simp [ha]

/-- The numbers of the chunks are below 2^32, so the next number does not wrap. -/
theorem transIndex_eq_succ_iff {s : Sent FirmwareLogPushView} {n n' : ℕ} (hs : Announces n type s)
    (hc : Announces n' type c) (hle : s.piece ≤ c.piece) :
    c.body.header.transIndex = s.body.header.transIndex + 1 ↔ c.piece = s.piece + 1 := by
  have hsmall := s.body.header.transIndex.toNat_lt
  have hcsmall := c.body.header.transIndex.toNat_lt
  have hone : (1 : UInt32).toNat = 1 := rfl
  rw [hs.transIndex] at hsmall
  rw [hc.transIndex] at hcsmall
  rw [← UInt32.toNat_inj, UInt32.toNat_add, hs.transIndex, hc.transIndex, hone]
  omega

/-- **When a chunk is a gap**, by its number and that of the chunk of its file before it. -/
theorem gap_iff (h : LidarLog first (before ++ .sent type c (some d) :: after))
    (hq : lastArrival type c.file before = some q) :
    (((p.exec before).logTrack type).take c.body.header).1 = true ↔
      q.1.piece + 1 < c.piece ∨
        (c.piece = q.1.piece ∧ c.body.header.flags.fileBegin = false ∧
          c.body.header.flags.fileEnd = false) := by
  obtain ⟨pre, mid, a, ha, hstream, hprevious⟩ := previous_of_lastArrival hq d after
  have hmem : Item.sent type q.1 q.2 ∈ before := mem_of_mem_streamOf (by rw [hstream]; simp)
  have hqannounces := h.announces type q.1 q.2 (by simp [hmem])
  have hcannounces := h.announces type c (some d) (by simp)
  rw [track_of_lastArrival h hq, LogTrack.take_after_iff]
  rcases hprevious.resend_or_later (h.regular type) with hresent | ⟨hopen, hlater⟩
  · -- the same chunk again: its number is not the next one
    have hnext : c.body.header.transIndex ≠ q.1.body.header.transIndex + 1 := by
      rw [ne_eq, transIndex_eq_succ_iff hqannounces hcannounces (by rw [hresent]), hresent]
      omega
    rw [hresent] at hnext ⊢
    constructor
    · rintro ⟨hbegin, hend, -, -⟩
      exact .inr ⟨rfl, hbegin, hend⟩
    · rintro (hjump | ⟨-, hbegin, hend⟩)
      · omega
      · exact ⟨hbegin, hend, rfl, hnext⟩
  · -- a later one: neither is the begin flag set, nor was the file at its end
    have hbegin : c.body.header.flags.fileBegin = false := by
      rw [hcannounces.fileBegin, decide_eq_false_iff_not]
      omega
    have hend : q.1.body.header.flags.fileEnd = false := by rw [hqannounces.fileEnd, hopen]
    have hfile : q.1.body.header.fileIndex = c.body.header.fileIndex := by
      rw [hqannounces.fileIndex, hcannounces.fileIndex, hprevious.file]
    rw [ne_eq, transIndex_eq_succ_iff hqannounces hcannounces (Nat.le_of_lt hlater)]
    constructor
    · rintro ⟨-, -, -, hnext⟩
      exact .inl (by omega)
    · rintro (hjump | ⟨hsame, -, -⟩)
      · exact ⟨hbegin, hend, hfile, by omega⟩
      · omega

theorem taken_step (p : LogPort) (h : LidarLog first (before ++ .sent type c (some d) :: after)) :
    Taken (p.exec before) type d c.body.header ((p.exec before).step (.sent type c (some d))).1
      ((p.exec before).step (.sent type c (some d))).2 := by
  show Taken _ _ _ _ ((p.exec before).onLog d).1 ((p.exec before).onLog d).2
  rw [onLog_of_carries (h.carries type c d (by simp))]
  exact taken_onChunk (h.announces type c (some d) (by simp)).logType

/-- A chunk of the file between the two never arrived, neither before nor after. -/
def Missing (type : Fin 2) (items : List Item) (q c : Sent FirmwareLogPushView) : Prop :=
  ∃ m, q.piece < m ∧ m < c.piece ∧
    ∀ x ∈ streamOf type items, x.2.isSome → x.1.file = c.file → x.1.piece ≠ m

/-- The chunk repeats the one before, with neither the begin nor the end flag. -/
def Repeats (q c : Sent FirmwareLogPushView) : Prop :=
  c.piece = q.piece ∧ c.body.header.flags.fileBegin = false ∧ c.body.header.flags.fileEnd = false

/-- The item raises a gap: it is counted, and told to the callback if there is one. -/
structure RaisesGap (p : LogPort) (item : Item) (event : LogGap) : Prop where
  counted : (p.step item).2.logGaps = p.logGaps + 1
  told : ∀ g, LogOutput.gap g ∈ (p.step item).1 ↔ p.rxEventCb = true ∧ g = event

/-- The item raises no gap. -/
structure RaisesNone (p : LogPort) (item : Item) : Prop where
  counted : (p.step item).2.logGaps = p.logGaps
  told : ∀ g, LogOutput.gap g ∉ (p.step item).1

/-- Behind a chunk of the same file, the tracker's answer is what the port raises. -/
theorem raisesGap_of_lastArrival (p : LogPort)
    (h : LidarLog first (before ++ .sent type c (some d) :: after))
    (hq : lastArrival type c.file before = some q)
    (hraised : q.1.piece + 1 < c.piece ∨ Repeats q.1 c) :
    RaisesGap (p.exec before) (.sent type c (some d))
      { timeNs := d.realtimeNowNs
        logFileIndex := c.body.header.fileIndex
        logExpected := q.1.body.header.transIndex + 1
        logActual := c.body.header.transIndex } := by
  have htaken := taken_step p h
  have hyes := (gap_iff (p := p) h hq).mpr hraised
  refine ⟨htaken.gaps.trans (if_pos hyes), fun g => ?_⟩
  rw [htaken.event g, track_of_lastArrival h hq]
  rw [track_of_lastArrival h hq] at hyes
  constructor
  · rintro ⟨-, hcallback, hevent⟩
    exact ⟨hcallback, hevent⟩
  · rintro ⟨hcallback, hevent⟩
    exact ⟨hyes, hcallback, hevent⟩

theorem raisesNone_of_lastArrival (p : LogPort)
    (h : LidarLog first (before ++ .sent type c (some d) :: after))
    (hq : lastArrival type c.file before = some q)
    (hraised : ¬(q.1.piece + 1 < c.piece ∨ Repeats q.1 c)) :
    RaisesNone (p.exec before) (.sent type c (some d)) := by
  have htaken := taken_step p h
  have hno := mt (gap_iff (p := p) h hq).mp hraised
  exact ⟨htaken.gaps.trans (if_neg hno), fun g hmem => hno ((htaken.event g).mp hmem).1⟩

/-- **Gaps of the firmware log.**  A chunk that is not the first of its file to arrive raises
a gap if and only if a chunk between it and the one before never arrived, or it repeats that
one and has neither the begin nor the end flag. -/
theorem firmware_log_gap_iff (p : LogPort) (first : Fin 2 → ℕ) (before after : List Item)
    (type : Fin 2) (c : Sent FirmwareLogPushView) (d : LogDatagram)
    (q : Sent FirmwareLogPushView × Option LogDatagram)
    (h : LidarLog first (before ++ .sent type c (some d) :: after))
    (hq : lastArrival type c.file before = some q) :
    (RaisesGap (p.exec before) (.sent type c (some d))
        { timeNs := d.realtimeNowNs
          logFileIndex := c.body.header.fileIndex
          logExpected := q.1.body.header.transIndex + 1
          logActual := c.body.header.transIndex } ↔
      Missing type (before ++ .sent type c (some d) :: after) q.1 c ∨ Repeats q.1 c) ∧
    (RaisesNone (p.exec before) (.sent type c (some d)) ↔
      ¬(Missing type (before ++ .sent type c (some d) :: after) q.1 c ∨ Repeats q.1 c)) := by
  obtain ⟨pre, mid, a, -, -, hprevious⟩ := previous_of_lastArrival hq d after
  have hmissing : Missing type (before ++ .sent type c (some d) :: after) q.1 c ↔
      q.1.piece + 1 < c.piece := hprevious.missing_iff (h.regular type)
  rw [hmissing]
  -- the counter tells the two outcomes apart
  by_cases hraised : q.1.piece + 1 < c.piece ∨ Repeats q.1 c
  · have hgap := raisesGap_of_lastArrival p h hq hraised
    refine ⟨⟨fun _ => hraised, fun _ => hgap⟩, fun hnone => ?_, fun hno => absurd hraised hno⟩
    have := hgap.counted.symm.trans hnone.counted
    omega
  · have hnone := raisesNone_of_lastArrival p h hq hraised
    refine ⟨⟨fun hgap => ?_, fun hyes => absurd hyes hraised⟩, fun _ => hraised, fun _ => hnone⟩
    have := hgap.counted.symm.trans hnone.counted
    omega

/-! ## One file -/

/-- A chunk without data of a file with the index 1. -/
def chunkOf (piece : ℕ) : Sent FirmwareLogPushView where
  file := 0
  piece
  last := false
  body :=
    { header :=
        { fileIndex := 1
          flags := ⟨if piece = 0 then 0x02 else 0⟩
          transIndex := UInt32.ofNat piece }
      data := [] }

/-- The frame of a push without data. -/
def pushSpec (header : FirmwareLogPushHeader) : CommandFrameSpec where
  cmdId := kPushLog
  senderType := .kLidar
  data := header.bytes 0

def datagramOf (header : FirmwareLogPushHeader) : LogDatagram where
  data := commandWire (pushSpec header)
  sender := ⟨⟨192, 168, 1, 100⟩, 56500⟩

theorem carries_datagramOf {header : FirmwareLogPushHeader} (h : header.dataLength = 0) :
    Carries (datagramOf header) ⟨header, []⟩ := by
  have hsize : (pushSpec header).data.length ≤ kCommandDataMaxSize := by
    show (header.bytes 0).length ≤ _
    rw [FirmwareLogPushHeader.bytes_length]
    decide
  have hframe : parseCommandFrame (commandWire (pushSpec header)) =
      .ok ⟨(pushSpec header).header, header.bytes 0⟩ := by
    have hwire := parseCommandFrame_commandWire [] hsize
    rwa [List.append_nil] at hwire
  have hpush : parseFirmwareLogPush (header.bytes 0) = .ok ⟨header, []⟩ := by
    have hnone : ([] : List UInt8).length ≤ kFirmwareLogPushDataMaxSize := Nat.zero_le _
    have hread := parseFirmwareLogPush_bytes header hnone
    rw [List.append_nil] at hread
    refine hread.trans ?_
    obtain ⟨logType, fileIndex, fileNum, flags, timestamp, rsvd, transIndex, dataLength⟩ := header
    obtain rfl : dataLength = 0 := h
    rfl
  have hreq : (pushSpec header).header.cmdType ≠ .kAck := by
    show CmdType.kReq ≠ CmdType.kAck
    decide
  exact ⟨_, hframe, hreq, rfl, hpush⟩

/-- Chunks of one file in the order they are sent, and whether each arrives. -/
def oneFile (chunks : List (ℕ × Bool)) : List Item :=
  chunks.map fun x =>
    .sent 0 (chunkOf x.1) (if x.2 then some (datagramOf (chunkOf x.1).body.header) else none)

theorem streamOf_oneFile (chunks : List (ℕ × Bool)) :
    streamOf 0 (oneFile chunks) = chunks.map fun x =>
      (chunkOf x.1, if x.2 then some (datagramOf (chunkOf x.1).body.header) else none) := by
  rw [streamOf, oneFile, List.filterMap_map, ← List.filterMap_eq_map]
  rfl

/-- The items of the file are its chunks. -/
theorem of_mem_oneFile {chunks : List (ℕ × Bool)} {s : Sent FirmwareLogPushView}
    {arrived : Option LogDatagram} (h : Item.sent type s arrived ∈ oneFile chunks) :
    type = 0 ∧ ∃ x ∈ chunks, s = chunkOf x.1 ∧
      arrived = if x.2 then some (datagramOf (chunkOf x.1).body.header) else none := by
  obtain ⟨x, hx, hsame⟩ := List.mem_map.mp h
  obtain ⟨rfl, rfl, rfl⟩ := Item.sent.inj hsame
  exact ⟨rfl, x, hx, rfl, rfl⟩

theorem streamOf_oneFile_of_ne (hne : type ≠ 0) (chunks : List (ℕ × Bool)) :
    streamOf type (oneFile chunks) = [] := by
  rw [List.eq_nil_iff_forall_not_mem]
  exact fun x hx => hne (of_mem_oneFile (mem_of_mem_streamOf hx)).1

theorem lidarLog_oneFile {chunks : List (ℕ × Bool)}
    (hchain : chunks.IsChain fun x y => y.1 = x.1 ∨ y.1 = x.1 + 1)
    (hstart : ∀ x, chunks.head? = some x → x.1 = 0) (hsmall : ∀ x ∈ chunks, x.1 < 2 ^ 32) :
    LidarLog (fun _ => 1) (oneFile chunks) := by
  constructor
  case announces =>
    intro type s arrived hmem
    obtain ⟨rfl, x, hx, rfl, -⟩ := of_mem_oneFile hmem
    refine ⟨rfl, rfl, UInt32.toNat_ofNat_of_lt' (hsmall x hx), ?_, ?_⟩
    · by_cases hzero : x.1 = 0
      · simp [chunkOf, hzero, FirmwareLogFlags.fileBegin]
      · simp [chunkOf, hzero, FirmwareLogFlags.fileBegin]
    · by_cases hzero : x.1 = 0
      · rw [hzero]
        rfl
      · simp [chunkOf, hzero, FirmwareLogFlags.fileEnd]
  case carries =>
    intro type s d hmem
    obtain ⟨-, x, -, rfl, hd⟩ := of_mem_oneFile hmem
    split_ifs at hd
    rw [Option.some.inj hd]
    exact carries_datagramOf rfl
  case regular =>
    intro type
    by_cases hzero : type = 0
    · subst hzero
      rw [Regular, streamOf_oneFile, List.isChain_map]
      refine hchain.imp fun x y hxy => ?_
      rcases hxy with hsame | hnext
      · rw [hsame]
        exact .resend _
      · exact .next rfl rfl hnext
    · rw [streamOf_oneFile_of_ne hzero]
      exact .nil
  case starts =>
    intro type x hx
    by_cases hzero : type = 0
    · subst hzero
      rw [streamOf_oneFile, List.head?_map, Option.map_eq_some_iff] at hx
      obtain ⟨y, hy, rfl⟩ := hx
      exact hstart y hy
    · rw [streamOf_oneFile_of_ne hzero] at hx
      exact absurd hx (by simp)
  case others =>
    intro d push hmem
    obtain ⟨x, -, hsame⟩ := List.mem_map.mp hmem
    exact absurd hsame (by simp)

/-- The second of three chunks is lost: the third raises a gap. -/
theorem firmware_log_gap_iff_lost : RaisesGap (LogPort.exec {} (oneFile [(0, true), (1, false)]))
      (.sent 0 (chunkOf 2) (some (datagramOf (chunkOf 2).body.header))) ⟨0, 1, 1, 2⟩ := by
  have h : LidarLog (fun _ => 1) (oneFile [(0, true), (1, false), (2, true)]) :=
    lidarLog_oneFile (by decide) (by simp) (by decide)
  refine (firmware_log_gap_iff {} (fun _ => 1) (oneFile [(0, true), (1, false)]) [] 0
    (chunkOf 2) (datagramOf (chunkOf 2).body.header)
    (chunkOf 0, some (datagramOf (chunkOf 0).body.header)) h rfl).1.mpr
    (.inl ⟨1, by decide, by decide, ?_⟩)
  show ∀ x ∈ streamOf 0 (oneFile [(0, true), (1, false), (2, true)]), _
  rw [streamOf_oneFile]
  simp [chunkOf]

/-- **A chunk that is sent twice and arrives twice raises a gap**, although nothing is lost. -/
theorem resent_chunk_raises_gap :
    LidarLog (fun _ => 1) (oneFile [(0, true), (1, true), (1, true)]) ∧
      lastArrival 0 0 (oneFile [(0, true), (1, true)]) =
        some (chunkOf 1, some (datagramOf (chunkOf 1).body.header)) ∧
      ¬Missing 0 (oneFile [(0, true), (1, true), (1, true)]) (chunkOf 1) (chunkOf 1) ∧
      RaisesGap (LogPort.exec {} (oneFile [(0, true), (1, true)]))
        (.sent 0 (chunkOf 1) (some (datagramOf (chunkOf 1).body.header))) ⟨0, 1, 2, 1⟩ := by
  have hfile : LidarLog (fun _ => 1) (oneFile [(0, true), (1, true), (1, true)]) :=
    lidarLog_oneFile (by decide) (by simp) (by decide)
  have h : LidarLog (fun _ => 1) (oneFile [(0, true), (1, true)] ++
      [.sent 0 (chunkOf 1) (some (datagramOf (chunkOf 1).body.header))]) := hfile
  have hlast : lastArrival 0 0 (oneFile [(0, true), (1, true)]) =
      some (chunkOf 1, some (datagramOf (chunkOf 1).body.header)) := rfl
  refine ⟨hfile, hlast, ?_, ?_⟩
  · rintro ⟨m, hlow, hhigh, -⟩
    omega
  · exact raisesGap_of_lastArrival {} h hlast (.inr ⟨rfl, rfl, rfl⟩)

end LogPort

end LivoxMid360
