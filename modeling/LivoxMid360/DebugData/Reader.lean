import LivoxMid360.DebugData
import LivoxMid360.Lib.WhileLoop
import LivoxMid360.PythonPack
import Mathlib.Data.List.DropRight

/-!
# The reader of debug data files

`tools/livox_mid360_debug_data.py` reads the files `livox-mid360-cli debug-data` writes and
converts a `raw` file to an `sdk2` file.  `iter_records` is a generator: it is modelled by
the records it yields and the exception that ends it, if one does.  `main` is modelled with
the two files it can write, its exit code and its summary; what it prints as text is left
out.

Text of a file header is decoded as ASCII with replacement and encoded again when a file is
converted, so a serial survives the conversion when its bytes are ASCII and do not end in
NUL.

`iterRecords_rawFile` and `main_toSdk2` say what the reader does with a well-formed raw
file: it yields the records of the datagrams, and converts to the bytes of the sdk2 format.
`debug_data_reads_back` puts the two programs together.
-/

namespace LivoxMid360

open LittleEndian PrefixBudget

namespace Python.DebugData

/-! ## The program -/

def MAGIC : List UInt8 := [0x4C, 0x4D, 0x44, 0x42, 0x47, 0x52, 0x41, 0x57]
def VERSION : ℕ := 0
def FILE_HEADER : List Code := [.s 8, .I, .s 16, .Q]
def RECORD_HEADER : List Code := [.Q, .H, .I]
def SDK2_HEADER : List Code := [.B, .B, .B, .s 16, .s 107, .H]
def SDK2_FILE_VERSION : ℕ := 1
def SDK2_DATA_TYPE : ℕ := 1
def DEV_TYPE_MID360 : ℤ := 9

/-- An exception: a `FormatError` with its message, or one of the library. -/
inductive Raised where
  | formatError (msg : String)
  | exn (x : Exn)
deriving DecidableEq, Repr

inductive FileFormat where
  | raw
  | sdk2
deriving DecidableEq, Repr

structure Header where
  format : FileFormat
  version : ℕ
  serial : List Char
  startTimeNs : Option ℕ := none
  devType : Option ℕ := none
  dataType : Option ℕ := none
  size : ℕ := calcsize FILE_HEADER
deriving DecidableEq

structure Record where
  receiveTimeNs : Option ℕ
  sourcePort : Option ℕ
  payload : List UInt8
deriving DecidableEq, Repr

/-- `decode('ascii', 'replace')`. -/
def decodeAscii (bs : List UInt8) : List Char :=
  bs.map fun b => if b.toNat < 128 then Char.ofNat b.toNat else Char.ofNat 0xFFFD

/-- `encode('ascii')`; a `UnicodeEncodeError` is a `ValueError`. -/
def encodeAscii (str : List Char) : Except Exn (List UInt8) :=
  if str.all (fun c => c.toNat < 128) then .ok (str.map fun c => UInt8.ofNat c.toNat)
  else raise "ordinal not in range(128)"

/-- `encode_sdk2_header`. -/
def encodeSdk2Header (serial : List Char) (devType : ℤ) : Except Exn (List UInt8) :=
  match encodeAscii serial with
  | .error x => .error x
  | .ok serial =>
    match pack SDK2_HEADER [.int SDK2_FILE_VERSION, .int devType, .int SDK2_DATA_TYPE,
      .bytes (sliced serial 0 16), .bytes (List.replicate 107 0), .int 0] with
    | .error x => .error x
    | .ok head =>
      -- the checksum field is packed as 0 and replaced
      let crc := crc16CcittFalse (sliced head 0 (calcsize SDK2_HEADER - 2))
      match pack [.H] [.int crc] with
      | .error x => .error x
      | .ok tail => .ok (sliced head 0 (head.length - 2) ++ tail)

/-- `parse_header`. -/
def parseHeader (data : List UInt8) : Except Raised Header :=
  if sliced data 0 MAGIC.length = MAGIC then
    if data.length < calcsize FILE_HEADER then
      .error (.formatError "file shorter than the header")
    else match unpackFrom FILE_HEADER data 0 with
    | .ok [.bytes _, .int version, .bytes serial, .int start] =>
      if version ≠ VERSION then
        .error (.formatError ("unsupported version " ++ toString version))
      else
        .ok { format := .raw, version, startTimeNs := some start,
              serial := decodeAscii (serial.rdropWhile (· == 0)) }
    | .ok _ => .error (.exn .structError)
    | .error x => .error (.exn x)
  else if data.length < calcsize SDK2_HEADER then
    .error (.formatError "file shorter than the header")
  else match unpackFrom SDK2_HEADER data 0 with
  | .ok [.int ver, .int devType, .int dataType, .bytes serial, .bytes _, .int crc] =>
    if crc ≠ crc16CcittFalse (sliced data 0 (calcsize SDK2_HEADER - 2)) then
      .error (.formatError "bad magic and no valid Livox-SDK2 header")
    else if ver ≠ SDK2_FILE_VERSION then
      .error (.formatError ("unsupported Livox-SDK2 file version " ++ toString ver))
    else
      .ok { format := .sdk2, version := ver, devType := some devType,
            dataType := some dataType, size := calcsize SDK2_HEADER,
            serial := decodeAscii (serial.takeWhile (· != 0)) }
  | .ok _ => .error (.exn .structError)
  | .error x => .error (.exn x)

/-- A generator in the middle of its loop: its position and what it has yielded. -/
structure Cursor where
  pos : ℕ
  yielded : List Record

/-- What a generator has yielded, and the exception it has ended with. -/
abbrev Yields := List Record × Option Raised

/-- A turn of the loop of `iter_records` over the datagrams of an sdk2 file. -/
def datagramTurn (data : List UInt8) (datagramSize : ℕ) (c : Cursor) : Cursor ⊕ Yields :=
  if c.pos < data.length then
    let stop := c.pos + datagramSize
    if stop > data.length then
      .inr (c.yielded, some (.formatError ("datagram cut at offset " ++ toString c.pos)))
    else
      .inl { pos := stop
             yielded := c.yielded ++ [{ receiveTimeNs := none, sourcePort := none,
                                        payload := sliced data c.pos stop }] }
  else .inr (c.yielded, none)

/-- A turn of the loop of `iter_records` over the records of a raw file. -/
def recordTurn (data : List UInt8) (c : Cursor) : Cursor ⊕ Yields :=
  if c.pos < data.length then
    if c.pos + calcsize RECORD_HEADER > data.length then
      .inr (c.yielded, some (.formatError ("record header cut at offset " ++ toString c.pos)))
    else match unpackFrom RECORD_HEADER data c.pos with
    | .ok [.int t, .int port, .int length] =>
      let pos := c.pos + calcsize RECORD_HEADER
      let stop := pos + length
      if stop > data.length then
        .inr (c.yielded, some (.formatError ("payload cut at offset " ++ toString pos)))
      else
        .inl { pos := stop
               yielded := c.yielded ++ [{ receiveTimeNs := some t, sourcePort := some port,
                                          payload := sliced data pos stop }] }
    | .ok _ => .inr (c.yielded, some (.exn .structError))
    | .error x => .inr (c.yielded, some (.exn x))
  else .inr (c.yielded, none)

theorem datagramTurn_decreases (data : List UInt8) (n : ℕ) :
    WhileLoop.Decreases (datagramTurn data (n + 1)) fun c => data.length - c.pos := by
  intro c c' hturn
  unfold datagramTurn at hturn
  dsimp only at hturn
  split_ifs at hturn with hmore hcut
  obtain rfl := Sum.inl.inj hturn
  dsimp only
  omega

theorem recordTurn_decreases (data : List UInt8) :
    WhileLoop.Decreases (recordTurn data) fun c => data.length - c.pos := by
  intro c c' hturn
  have hheader : calcsize RECORD_HEADER = 14 := rfl
  unfold recordTurn at hturn
  dsimp only at hturn
  split_ifs at hturn with hmore hcut
  split at hturn
  · split_ifs at hturn with hpayload
    obtain rfl := Sum.inl.inj hturn
    dsimp only
    omega
  · cases hturn
  · cases hturn

/-- `iter_records` once it has the header. -/
def iterFrom (data : List UInt8) (header : Header) (datagramSize : Option ℕ) : Yields :=
  match header.format with
  | .sdk2 =>
    match datagramSize with
    | none => ([], none)
    -- `if not datagram_size` is also true of 0
    | some 0 => ([], none)
    | some (n + 1) =>
      WhileLoop.exec (datagramTurn data (n + 1)) _ (datagramTurn_decreases data n)
        { pos := header.size, yielded := [] }
  | .raw =>
    WhileLoop.exec (recordTurn data) _ (recordTurn_decreases data)
      { pos := header.size, yielded := [] }

/-- `iter_records`. -/
def iterRecords (data : List UInt8) (header : Option Header) (datagramSize : Option ℕ) : Yields :=
  match header.elim (parseHeader data) .ok with
  | .error x => ([], some x)
  | .ok header => iterFrom data header datagramSize

/-- `struct.unpack_from('<I', payload)`, for a payload of at least four bytes. -/
def counter (payload : List UInt8) : ℕ :=
  leValue (slice payload 0 4)

/-- `check_sim`: what is wrong with a datagram of the simulator. -/
def checkSim (index : ℕ) (payload : List UInt8) (firstSeq : ℕ) : Option String :=
  if payload.length < 4 then some "shorter than the counter"
  else
    let seq := counter payload
    let body := payload.drop 4
    if seq ≠ firstSeq + index then
      some ("seq " ++ toString seq ++ ", expected " ++ toString (firstSeq + index))
    else if body ≠ (List.range body.length).map fun i => UInt8.ofNat ((seq + i) % 256) then
      some "pattern mismatch"
    else none

/-- The arguments `main` acts on. -/
structure Args where
  payload : Bool := false
  checkSim : Bool := false
  datagramSize : Option ℤ := none
  toSdk2 : Bool := false
  devType : ℤ := DEV_TYPE_MID360

/-- The counters of `main` and the files it writes. -/
structure Progress where
  packets : ℕ := 0
  size : ℕ := 0
  firstSeq : ℕ := 0
  payloadOut : List UInt8 := []
  sdk2Out : List UInt8 := []

/-- The loop of `main` over the records, and the error that breaks it off. -/
def consume (args : Args) (p : Progress) : List Record → Progress × Option String
  | [] => (p, none)
  | r :: rs =>
    let p :=
      -- the counter of the first datagram is where the sequence starts
      if args.checkSim ∧ p.packets = 0 ∧ 4 ≤ r.payload.length then
        { p with firstSeq := counter r.payload }
      else p
    match if args.checkSim then checkSim p.packets r.payload p.firstSeq else none with
    | some bad => (p, some ("datagram " ++ toString p.packets ++ ": " ++ bad))
    | none =>
      consume args
        { p with
          packets := p.packets + 1
          size := p.size + r.payload.length
          payloadOut := if args.payload then p.payloadOut ++ r.payload else p.payloadOut
          sdk2Out := if args.toSdk2 then p.sdk2Out ++ r.payload else p.sdk2Out } rs

/-- The summary `main` prints. -/
structure Summary where
  header : Header
  packets : Option ℕ
  payloadBytes : ℕ
  error : Option String
deriving DecidableEq

/-- The exit code of `main` or the exception that leaves it, the files it has written and
its summary. -/
structure Outcome where
  exit : Except Exn ℕ
  payloadOut : Option (List UInt8) := none
  sdk2Out : Option (List UInt8) := none
  summary : Option Summary := none

/-- An exception that leaves `main` once the files are open. -/
def escape (args : Args) (p : Progress) (x : Exn) : Outcome where
  exit := .error x
  payloadOut := if args.payload then some p.payloadOut else none
  sdk2Out := if args.toSdk2 then some p.sdk2Out else none

/-- `framed`: the datagrams can be told apart. -/
def framed (args : Args) (header : Header) : Bool :=
  header.format = .raw ∨ args.datagramSize.isSome

/-- The end of `main`: summary and exit code. -/
def report (args : Args) (data : List UInt8) (header : Header) (p : Progress)
    (error : Option String) : Outcome :=
  let size := if framed args header then p.size else data.length - header.size
  { exit := .ok (
      if error.isSome then 2
      else if args.checkSim ∧ ¬framed args header then 1
      else if (if framed args header then p.packets else size) ≠ 0 then 0
      else 3)
    payloadOut := if args.payload then some p.payloadOut else none
    sdk2Out := if args.toSdk2 then some p.sdk2Out else none
    summary := some { header, payloadBytes := size, error,
                      packets := if framed args header then some p.packets else none } }

/-- The files before the loop: an sdk2 header, or the payload of a file without framing. -/
def begun (args : Args) (data : List UInt8) (header : Header) (head : List UInt8) : Progress where
  sdk2Out := head
  payloadOut := if args.payload ∧ ¬framed args header then data.drop header.size else []

/-- The part of `main` between opening and closing the files. -/
def convert (args : Args) (data : List UInt8) (header : Header) : Outcome :=
  match if args.toSdk2 then encodeSdk2Header header.serial args.devType else .ok [] with
  | .error x => escape args {} x
  | .ok head =>
    let (records, raised) := iterRecords data (some header) (args.datagramSize.map Int.toNat)
    match consume args (begun args data header head) records, raised with
    | (p, some error), _ => report args data header p (some error)
    | (p, none), none => report args data header p none
    | (p, none), some (.formatError msg) => report args data header p (some msg)
    | (p, none), some (.exn x) => escape args p x

/-- `main`, on a file that holds `data` or cannot be read.  `argparse` exits with 2. -/
def main (args : Args) (data : Option (List UInt8)) : Outcome :=
  if args.datagramSize.any (· ≤ 0) then { exit := .ok 2 }
  else match data with
  | none => { exit := .ok 2 }
  | some data =>
    match parseHeader data with
    | .error (.formatError _) => { exit := .ok 2 }
    | .error (.exn x) => { exit := .error x }
    | .ok header =>
      if args.toSdk2 ∧ header.format ≠ .raw then { exit := .ok 1 }
      else convert args data header

/-! ## Serials -/

open LivoxMid360.DebugData

/-- A serial as a device reports it: ASCII, without NUL, at most 16 characters. -/
structure IsSerial (serial : List UInt8) : Prop where
  ascii : ∀ b ∈ serial, b.toNat < 128
  nonzero : ∀ b ∈ serial, b ≠ 0
  length : serial.length ≤ kSerialSize

theorem encodeAscii_decodeAscii {bs : List UInt8} (h : ∀ b ∈ bs, b.toNat < 128) :
    encodeAscii (decodeAscii bs) = .ok bs := by
  have hchar : ∀ b ∈ bs, (if b.toNat < 128 then Char.ofNat b.toNat else Char.ofNat 0xFFFD).toNat =
      b.toNat := by
    intro b hb
    have hascii := h b hb
    rw [if_pos hascii, Char.ofNat, dif_pos (.inl (by omega))]
    rfl
  have hall : (decodeAscii bs).all (fun c => c.toNat < 128) = true := by
    rw [decodeAscii, List.all_map, List.all_eq_true]
    intro b hb
    rw [Function.comp_apply, hchar b hb, decide_eq_true_eq]
    exact h b hb
  rw [encodeAscii, if_pos hall, decodeAscii, List.map_map]
  refine congrArg Except.ok ((List.map_congr_left ?_).trans (List.map_id bs))
  intro b hb
  rw [Function.comp_apply, hchar b hb, id, UInt8.ofNat_toNat]

/-- The padding of a header field is stripped, and nothing else. -/
theorem rdropWhile_padded {serial : List UInt8} (h : IsSerial serial) :
    (padded kSerialSize serial).rdropWhile (· == 0) = serial := by
  have hpadding : ∀ k : ℕ, (serial ++ List.replicate k 0).rdropWhile (· == 0) = serial := by
    intro k
    induction k with
    | zero =>
      rw [List.replicate_zero, List.append_nil, List.rdropWhile_eq_self_iff]
      intro hne
      simpa using h.nonzero _ (List.getLast_mem hne)
    | succ k ih =>
      rw [List.replicate_succ', ← List.append_assoc, List.rdropWhile_concat_pos _ _ _ (by simp)]
      exact ih
  rw [padded, List.take_of_length_le h.length]
  exact hpadding _

/-! ## Well-formed files -/

variable {lidar : DiscoveredDevice}

/-- What the reader packs before it knows the checksum. -/
theorem pack_sdk2Header (lidar : DiscoveredDevice) :
    pack SDK2_HEADER [.int SDK2_FILE_VERSION, .int lidar.devType.toNat, .int SDK2_DATA_TYPE,
        .bytes lidar.serialNumber, .bytes (List.replicate 107 0), .int 0] =
      .ok (sdk2Fields lidar ++ encodeLe (0 : UInt16)) := by
  have hcrc : pack [.H] [.int 0] = .ok (encodeLe (0 : UInt16) ++ []) := pack_cons (pack_H 0) rfl
  have hreserved : Code.pack (.s 107) (.bytes (List.replicate 107 0)) =
      .ok (List.replicate 107 0) :=
    congrArg Except.ok (padded_of_length List.length_replicate)
  have hserial : Code.pack (.s 16) (.bytes lidar.serialNumber) =
      .ok (padded kSerialSize lidar.serialNumber) := rfl
  have hfields := pack_cons (pack_B kSdk2FileVersion) (pack_cons (pack_B lidar.devType)
    (pack_cons (pack_B kSdk2DataType) (pack_cons hserial (pack_cons hreserved hcrc))))
  refine hfields.trans (congrArg Except.ok ?_)
  have hbyte : ∀ b : UInt8, encodeLe b = [b] := fun b => congrArg (fun c => [c]) UInt8.ofNat_toNat
  rw [sdk2Fields, hbyte, hbyte, hbyte, List.append_nil, List.append_assoc, List.append_assoc]
  rfl

/-- **The sdk2 header of the reader is that of the sink.** -/
theorem encodeSdk2Header_eq (h : IsSerial lidar.serialNumber) :
    encodeSdk2Header (decodeAscii lidar.serialNumber) lidar.devType.toNat =
      .ok (sdk2Header lidar) := by
  have hserial : sliced lidar.serialNumber 0 16 = lidar.serialNumber :=
    List.take_of_length_le h.length
  have hfields : sliced (sdk2Fields lidar ++ encodeLe (0 : UInt16)) 0 126 = sdk2Fields lidar :=
    List.take_left' (sdk2Fields_length lidar)
  have hlength : (sdk2Fields lidar ++ encodeLe (0 : UInt16)).length - 2 = 126 := by
    simp [kSdk2CrcOffset]
  have hcrc : pack [.H] [.int (Crc.crc16CcittFalse (sdk2Fields lidar)).toNat] =
      .ok (encodeLe (Crc.crc16CcittFalse (sdk2Fields lidar)) ++ []) :=
    pack_cons (pack_H _) rfl
  rw [encodeSdk2Header, encodeAscii_decodeAscii h.ascii]
  dsimp only
  rw [hserial, pack_sdk2Header]
  dsimp only
  rw [hlength, show calcsize SDK2_HEADER - 2 = 126 from rfl, hfields, crc16CcittFalse_eq, hcrc,
    sdk2Header_eq, List.append_nil]

/-- The header of a raw file. -/
theorem parseHeader_raw (h : IsSerial lidar.serialNumber) (now : UInt64) (rest : List UInt8) :
    parseHeader (rawHeader lidar now ++ rest) =
      .ok { format := .raw, version := 0, startTimeNs := some now.toNat,
            serial := decodeAscii lidar.serialNumber } := by
  have hbytes : rawHeader lidar now ++ rest = MAGIC ++ (encodeLe kFormatVersion ++
      (padded kSerialSize lidar.serialNumber ++ (encodeLe now ++ rest))) := by
    simp only [rawHeader_eq, List.append_assoc]
    rfl
  have hmagic : sliced (rawHeader lidar now ++ rest) 0 MAGIC.length = MAGIC := by
    rw [hbytes]
    exact List.take_left
  have hlength : ¬(rawHeader lidar now ++ rest).length < calcsize FILE_HEADER := by
    have hheader := fileHeader_length .kRaw lidar now
    rw [List.length_append, Nat.not_lt]
    exact (Nat.le_of_eq hheader.symm).trans (Nat.le_add_right ..)
  have hversion : readLe UInt32 (rawHeader lidar now ++ rest) 8 = kFormatVersion := by
    rw [hbytes]
    exact readLe_append rfl _ _
  have hserial : slice (rawHeader lidar now ++ rest) 12 16 =
      padded kSerialSize lidar.serialNumber := by
    rw [hbytes, ← List.append_assoc]
    exact (slice_append rfl _ _).trans (List.take_left' (padded_length _ _))
  have hnow : readLe UInt64 (rawHeader lidar now ++ rest) 28 = now := by
    rw [hbytes, ← List.append_assoc, ← List.append_assoc]
    exact readLe_append (by simp [MAGIC, kSerialSize]) now rest
  rw [parseHeader, if_pos hmagic, if_neg hlength, unpackFrom_eq (Nat.not_lt.mp hlength)]
  simp only [FILE_HEADER, unpack, Code.size, Nat.zero_add, Nat.reduceAdd, decode_I, decode_Q,
    decode_s, hversion, hserial, hnow]
  rw [rdropWhile_padded h]
  rfl

/-- The record of a datagram. -/
def recordOf (p : DebugDataPacket) : Record where
  receiveTimeNs := some p.hostReceiveTimeNs.toNat
  sourcePort := some p.sender.port.toNat
  payload := p.data

/-- A turn of the loop at the record of a datagram. -/
theorem recordTurn_record (pre rest : List UInt8) {p : DebugDataPacket}
    (hsize : p.data.length ≤ 65535) (yielded : List Record) :
    recordTurn (pre ++ (recordBytes .kRaw p ++ rest)) { pos := pre.length, yielded } =
      .inl { pos := (pre ++ recordBytes .kRaw p).length, yielded := yielded ++ [recordOf p] } := by
  generalize hdata : pre ++ (recordBytes .kRaw p ++ rest) = data
  have hlength : data.length = pre.length + (14 + p.data.length + rest.length) := by
    rw [← hdata, List.length_append, List.length_append, recordBytes_length]
    rfl
  have hbytes : data = pre ++ (encodeLe p.hostReceiveTimeNs ++ (encodeLe p.sender.port ++
      (encodeLe (UInt32.ofNat p.data.length) ++ (p.data ++ rest)))) := by
    rw [← hdata, recordBytes, recordHeader_eq]
    simp only [List.append_assoc]
  have htime : readLe UInt64 data pre.length = p.hostReceiveTimeNs := by
    rw [hbytes]
    exact readLe_append rfl _ _
  have hport : readLe UInt16 data (pre.length + 8) = p.sender.port := by
    rw [hbytes, ← List.append_assoc]
    exact readLe_append (by simp) _ _
  have hcount : readLe UInt32 data (pre.length + 8 + 2) = UInt32.ofNat p.data.length := by
    rw [hbytes, ← List.append_assoc, ← List.append_assoc]
    exact readLe_append (by simp) _ _
  have hnumber : (UInt32.ofNat p.data.length).toNat = p.data.length :=
    UInt32.toNat_ofNat_of_lt' (hsize.trans_lt (by decide))
  have hpayload : sliced data (pre.length + 14) (pre.length + 14 + p.data.length) = p.data := by
    rw [sliced_eq, Nat.add_sub_cancel_left, hbytes, ← List.append_assoc, ← List.append_assoc,
      ← List.append_assoc, slice_append (by simp)]
    exact List.take_left
  have hunpack : unpack RECORD_HEADER data pre.length =
      [.int p.hostReceiveTimeNs.toNat, .int p.sender.port.toNat, .int p.data.length] := by
    simp only [RECORD_HEADER, unpack, Code.size, decode_Q, decode_H, decode_I, htime, hport,
      hcount, hnumber]
  have hheader : calcsize RECORD_HEADER = 14 := rfl
  have hstop : (pre ++ recordBytes .kRaw p).length = pre.length + 14 + p.data.length := by
    rw [List.length_append, recordBytes_length, Nat.add_assoc]
    rfl
  rw [recordTurn, if_pos (by dsimp only; omega), if_neg (by dsimp only; omega),
    unpackFrom_eq (by dsimp only; omega), hunpack]
  dsimp only
  rw [hheader, if_neg (by omega), hpayload, hstop]
  rfl

variable {ps : List DebugDataPacket}

/-- The loop over the records of a list of datagrams. -/
theorem exec_recordTurn (pre : List UInt8) (hsize : ∀ p ∈ ps, p.data.length ≤ 65535)
    (yielded : List Record) :
    WhileLoop.exec (recordTurn (pre ++ ps.flatMap (recordBytes .kRaw))) _
        (recordTurn_decreases _) { pos := pre.length, yielded } =
      (yielded ++ ps.map recordOf, none) := by
  -- induction on the datagrams that are left; what has been read joins the prefix
  induction ps generalizing pre yielded with
  | nil =>
    refine WhileLoop.exec_done _ ?_
    rw [recordTurn, if_neg (by simp), List.map_nil, List.append_nil]
  | cons p ps ih =>
    have hturn := recordTurn_record pre (ps.flatMap (recordBytes .kRaw)) (hsize p (by simp))
      yielded
    rw [List.flatMap_cons, WhileLoop.exec_again _ hturn]
    have hrest := ih (pre ++ recordBytes .kRaw p) (fun q hq => hsize q (by simp [hq]))
      (yielded ++ [recordOf p])
    simp only [List.append_assoc] at hrest ⊢
    exact hrest

/-- A raw file yields the records of its datagrams, and no exception. -/
theorem iterFrom_rawFile (lidar : DiscoveredDevice) (now : UInt64)
    (hsize : ∀ p ∈ ps, p.data.length ≤ 65535) {header : Header} (hformat : header.format = .raw)
    (hheader : header.size = kFileHeaderSize) (datagramSize : Option ℕ) :
    iterFrom (rawHeader lidar now ++ ps.flatMap (recordBytes .kRaw)) header datagramSize =
      (ps.map recordOf, none) := by
  have hlength : (rawHeader lidar now).length = header.size :=
    (fileHeader_length .kRaw lidar now).trans hheader.symm
  have hloop := exec_recordTurn (rawHeader lidar now) hsize []
  rw [hlength] at hloop
  unfold iterFrom
  rw [hformat]
  exact hloop

/-- The loop of `main` that converts appends the payloads. -/
theorem consume_toSdk2 {args : Args} (hsim : args.checkSim = false) (hsdk2 : args.toSdk2 = true)
    (p : Progress) (rs : List Record) :
    ∃ p', consume args p rs = (p', none) ∧ p'.sdk2Out = p.sdk2Out ++ rs.flatMap Record.payload := by
  induction rs generalizing p with
  | nil => exact ⟨p, rfl, (List.append_nil _).symm⟩
  | cons r rs ih =>
    rw [consume]
    simp only [hsim, hsdk2, Bool.false_eq_true, false_and, if_false, if_true]
    obtain ⟨p', hconsume, hout⟩ := ih _
    exact ⟨p', hconsume, hout.trans (by rw [List.flatMap_cons, List.append_assoc])⟩

/-- The conversion of a raw file whose header has been read. -/
theorem convert_toSdk2 {args : Args} (hsim : args.checkSim = false) (hsdk2 : args.toSdk2 = true)
    {data head : List UInt8} {header : Header}
    (hheader : encodeSdk2Header header.serial args.devType = .ok head) {rs : List Record}
    (hrecords : ∀ datagramSize, iterFrom data header datagramSize = (rs, none)) :
    (convert args data header).sdk2Out = some (head ++ rs.flatMap Record.payload) := by
  obtain ⟨p, hconsume, hout⟩ := consume_toSdk2 hsim hsdk2 (begun args data header head) rs
  have hiter : iterRecords data (some header) (args.datagramSize.map Int.toNat) = (rs, none) :=
    hrecords _
  unfold convert
  rw [if_pos hsdk2, hheader]
  dsimp only
  rw [hiter]
  dsimp only
  rw [hconsume]
  exact (if_pos hsdk2).trans (congrArg some hout)

/-- **A raw file converts** to the sdk2 header and the datagrams. -/
theorem main_toSdk2 (h : IsSerial lidar.serialNumber) (now : UInt64)
    (hsize : ∀ p ∈ ps, p.data.length ≤ 65535) :
    (main { toSdk2 := true, devType := lidar.devType.toNat }
        (some (rawHeader lidar now ++ ps.flatMap (recordBytes .kRaw)))).sdk2Out =
      some (sdk2Header lidar ++ ps.flatMap (recordBytes .kSdk2)) := by
  have hpayloads : (ps.map recordOf).flatMap Record.payload =
      ps.flatMap (recordBytes .kSdk2) := List.flatMap_map ..
  unfold main
  rw [if_neg (by simp)]
  dsimp only
  rw [parseHeader_raw h]
  dsimp only
  rw [if_neg (by simp), ← hpayloads]
  exact convert_toSdk2 rfl rfl (encodeSdk2Header_eq h)
    (iterFrom_rawFile lidar now hsize rfl rfl)

/-! ## Writing and reading together -/

/-- **Debug data files read back and convert exactly.**  A raw file that was written
without a failed file operation is at most `maxSize` bytes and holds the longest prefix of
the datagrams that fits; `write` has returned true for exactly these.  The reader yields
their receive times, source ports and payloads and no error, and converts the file to the
bytes the sink writes for them in sdk2 format. -/
theorem debug_data_reads_back (hserial : IsSerial lidar.serialNumber) {maxSize : UInt64}
    (hmax : headerSize .kRaw ≤ maxSize.toNat) {now : UInt64} {packets : List DebugDataPacket}
    (hsize : ∀ p ∈ packets, p.data.length ≤ 65535) {disk : Disk} {run : Capture}
    (hrun : run = capture disk .kRaw lidar maxSize now packets) (hio : run.Succeeded) :
    run.file.length ≤ maxSize.toNat ∧
    ∃ kept, Longest (recordSize .kRaw) (maxSize.toNat - headerSize .kRaw) packets kept ∧
      run.wrote = List.replicate kept.length true ++
        List.replicate (packets.length - kept.length) false ∧
      iterRecords run.file none none = (kept.map recordOf, none) ∧
      ∀ (disk' : Disk) (maxSize' now' : UInt64) (run' : Capture),
        headerSize .kSdk2 + total (recordSize .kSdk2) kept ≤ maxSize'.toNat →
        run' = capture disk' .kSdk2 lidar maxSize' now' kept → run'.Succeeded →
        (main { toSdk2 := true, devType := lidar.devType.toNat } (some run.file)).sdk2Out =
          some run'.file := by
  subst hrun
  obtain ⟨kept, hkept⟩ :
      ∃ kept, kept = keep (recordSize .kRaw) (maxSize.toNat - headerSize .kRaw) packets := ⟨_, rfl⟩
  obtain ⟨hwrote, hfile⟩ := capture_outcome hmax hsize hio hkept
  have hlongest : Longest (recordSize .kRaw) (maxSize.toNat - headerSize .kRaw) packets kept :=
    hkept ▸ keep_longest _ _
  have hkeptSize : ∀ p ∈ kept, p.data.length ≤ 65535 :=
    fun p hp => hsize p (hlongest.isPrefix.subset hp)
  refine ⟨?_, kept, hlongest, hwrote, ?_, ?_⟩
  · have hfits := hlongest.fits
    rw [hfile, List.length_append, fileHeader_length, records_length]
    omega
  · have hheader := parseHeader_raw hserial now (kept.flatMap (recordBytes .kRaw))
    rw [hfile, iterRecords, Option.elim_none, fileHeader, hheader]
    exact iterFrom_rawFile lidar now hkeptSize rfl rfl none
  · intro disk' maxSize' now' run' hsufficient hrun' hio'
    subst hrun'
    have hall : kept = keep (recordSize .kSdk2) (maxSize'.toNat - headerSize .kSdk2) kept :=
      (keep_of_total_le (by omega)).symm
    obtain ⟨-, hfile'⟩ := capture_outcome (by omega) hkeptSize hio' hall
    rw [hfile, hfile']
    exact main_toSdk2 hserial now hkeptSize

/-- A file of at most 60 bytes: the first datagram fits, the second does not. -/
theorem debug_data_reads_back_cut :
    ∃ run, run = capture { limit := 4096, limit_lt := by decide, accepts := fun _ => 4096 } .kRaw
        { serialNumber := [0x41, 0x42], devType := 9 } 60 7
        [{ hostReceiveTimeNs := 8, sender := ⟨⟨192, 168, 1, 100⟩, 60301⟩, data := [1] },
          { hostReceiveTimeNs := 9, sender := ⟨⟨192, 168, 1, 100⟩, 60301⟩,
            data := List.replicate 20 0 }] ∧
      run.Succeeded ∧ run.wrote = [true, false] ∧ run.file.length ≤ 60 := by
  refine ⟨_, rfl, rfl, rfl, And.left (debug_data_reads_back ?serial ?max ?size rfl ?io)⟩
  case serial => exact ⟨by simp, by simp, by decide⟩
  case max => decide
  case size => decide
  case io => rfl

end Python.DebugData

end LivoxMid360
