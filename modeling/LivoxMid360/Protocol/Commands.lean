import LivoxMid360.Protocol.Requests
import LivoxMid360.Session

/-!
# Reboot, time and debug-data requests, and the payloads of ACKs

The requests that carry no entries: reboot and factory reset, the GPS time and the debug
data stream; and how the ACK of a plain request, of a configure and of an inquire request is
read (`protocol.cpp`, `debug_data.cpp`).

Each encoder fills a zeroed buffer field by field; its `_eq` lemma says that the fields
stand one behind the other.  The `_bytes` lemmas read back a payload written in this form.
-/

namespace LivoxMid360

open LittleEndian

/-! ## Commands -/

def kReboot : UInt16 := 0x0200
def kFactoryReset : UInt16 := 0x0201

def encodeRebootRequest (timeoutMs : UInt16) : List UInt8 :=
  writeLe (List.replicate 2 0) 0 timeoutMs

def encodeSetGpsTimestampRequest (ppsTimeNs : UInt64) : List UInt8 :=
  let out : List UInt8 := List.replicate 9 0
  let out := writeLe out 0 (2 : UInt8)
  writeLe out 1 ppsTimeNs

def kDebugDataControlSize : ℕ := 9
def kDefaultHostDebugDataPort : UInt16 := 44332

structure DebugDataControlRequest where
  enable : Bool := true
  hostIp : Ipv4 := ⟨0, 0, 0, 0⟩
  hostPort : UInt16 := kDefaultHostDebugDataPort
  reserved : UInt16 := 0
deriving DecidableEq, Repr

def encodeDebugDataControl (req : DebugDataControlRequest) : List UInt8 :=
  let out : List UInt8 := List.replicate kDebugDataControlSize 0
  let out := writeLe out 0 (if req.enable then (1 : UInt8) else 0)
  let out := writeLe out 1 req.hostIp.a
  let out := writeLe out 2 req.hostIp.b
  let out := writeLe out 3 req.hostIp.c
  let out := writeLe out 4 req.hostIp.d
  let out := writeLe out 5 req.hostPort
  writeLe out 7 req.reserved

/-- One byte on the wire. -/
theorem encodeLe_uint8 (b : UInt8) : encodeLe b = [b] := by
  have hbyte : UInt8.ofNat b.toNat = b := UInt8.ofNat_toNat
  show [UInt8.ofNat b.toNat] = [b]
  rw [hbyte]

/-- A field at the start of a buffer. -/
theorem writeLe_zero {α : Type} [LeWord α] (out : List UInt8) (a : α) :
    writeLe out 0 a = encodeLe a ++ out.drop (LeWord.size α) :=
  writeLe_append List.length_nil out a

theorem encodeRebootRequest_eq (timeoutMs : UInt16) :
    encodeRebootRequest timeoutMs = encodeLe timeoutMs := by
  rw [encodeRebootRequest, writeLe_zero]
  simp

theorem encodeSetGpsTimestampRequest_eq (ppsTimeNs : UInt64) :
    encodeSetGpsTimestampRequest ppsTimeNs = encodeLe (2 : UInt8) ++ encodeLe ppsTimeNs := by
  rw [encodeSetGpsTimestampRequest]
  rw [writeLe_zero, writeLe_append (by simp)]
  simp

theorem encodeDebugDataControl_eq (req : DebugDataControlRequest) :
    encodeDebugDataControl req =
      encodeLe (if req.enable then (1 : UInt8) else 0) ++
        (req.hostIp.bytes ++ (encodeLe req.hostPort ++ encodeLe req.reserved)) := by
  rw [encodeDebugDataControl]
  -- each field is written behind the one before it, over zeros
  rw [writeLe_zero, writeLe_append (by simp), writeLe_append (by simp), writeLe_append (by simp),
    writeLe_append (by simp), writeLe_append (by simp), writeLe_append (by simp)]
  simp [kDebugDataControlSize, Ipv4.bytes, encodeLe_uint8]

/-! ## ACKs -/

def parseSimpleAck (data : List UInt8) : Except ParseError RetCode :=
  if data = [] then .error .kTruncated else .ok ⟨readLe UInt8 data 0⟩

def parseParamConfigAck (data : List UInt8) : Except ParseError ParamConfigAck :=
  if data.length < 3 then .error .kTruncated
  else .ok ⟨⟨readLe UInt8 data 0⟩, readLe UInt16 data 1⟩

/-! ## Reading back -/

theorem parseParamConfigAck_bytes (ret : UInt8) (key : UInt16) (rest : List UInt8) :
    parseParamConfigAck (encodeLe ret ++ (encodeLe key ++ rest)) = .ok ⟨⟨ret⟩, key⟩ := by
  have hlength : ¬(encodeLe ret ++ (encodeLe key ++ rest)).length < 3 := by
    simp only [List.length_append, encodeLe_length, size_uint8, size_uint16]
    omega
  rw [parseParamConfigAck, if_neg hlength, readLe_append_zero, readLe_append (by simp)]

theorem parseParamInquireAck_bytes {ret : UInt8} {kvs : List KeyValue}
    (hcount : kvs.length < 0x10000) (hvalues : ∀ kv ∈ kvs, kv.value.length < 0x10000) :
    CommandSession.parseParamInquireAck
        (encodeLe ret ++ (encodeLe (UInt16.ofNat kvs.length) ++ kvs.flatMap KeyValue.bytes)) =
      some (.ok ⟨⟨ret⟩, kvs⟩) := by
  have hlength : ¬(encodeLe ret ++ (encodeLe (UInt16.ofNat kvs.length) ++
      kvs.flatMap KeyValue.bytes)).length < 3 := by
    simp only [List.length_append, encodeLe_length, size_uint8, size_uint16]
    omega
  have hdrop : (encodeLe ret ++ (encodeLe (UInt16.ofNat kvs.length) ++
      kvs.flatMap KeyValue.bytes)).drop 3 = kvs.flatMap KeyValue.bytes := by
    rw [← List.append_assoc, List.drop_left' (by simp)]
  rw [CommandSession.parseParamInquireAck, if_neg hlength, hdrop, readLe_append_zero,
    readLe_append (by simp), UInt16.toNat_ofNat_of_lt' hcount,
    parseKeyValueList_kvListBytes hcount hvalues]
  rfl

end LivoxMid360
