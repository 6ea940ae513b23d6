import LivoxMid360.Lib.WhileLoop
import LivoxMid360.Lvx2.Format

/-!
# The lvx2 reader

`Lvx2Reader` walks a file package by package.  `next_packet` is a loop: a turn
either returns, or loads the next frame and goes round again.  Loading a frame
consumes its header from the file, so the loop ends (`turn_decreases`), and
`nextPacket` is its result.

What `next_packet` changes is the `Cursor` of the reader; the device list and the
file header are set by `open` alone.  `open` starts afresh each time, and so gives
the reader another device list, with another `generation`.

`Reads c packets ending` says what all calls of `next_packet` return together: the
packages, one a call, and then the end of the file or an error.  Every cursor reads
something (`exists_reads`), because a package that is returned leaves less to read.
When it is the end of the file, every further call returns it again (`Reads.yields`).
-/

namespace LivoxMid360

open LittleEndian Lvx2

/-! ## The file -/

/-- A file open for reading: the bytes ahead, and the error that reading past them
meets, if any. -/
structure InFile where
  rest : List UInt8 := []
  fault : Option Int32 := none
deriving DecidableEq, Repr

/-- `fread` of `n` bytes. -/
def InFile.fread (f : InFile) (n : ℕ) : List UInt8 × InFile :=
  (f.rest.take n, { f with rest := f.rest.drop n })

namespace InFile

/-- `read_some`: the bytes read, short at the end of the file. -/
def readSome (f : InFile) (n : ℕ) : Except Lvx2Error (List UInt8) × InFile :=
  let (b, f) := f.fread n
  match f.fault with
  | some errno => if b.length ≠ n then (.error (ioError errno "read"), f) else (.ok b, f)
  | none => (.ok b, f)

/-- A read takes its bytes from the file, whether it succeeds or not. -/
theorem readSome_cases (f : InFile) (n : ℕ) :
    (∃ e, f.readSome n = (.error e, { f with rest := f.rest.drop n })) ∨
      f.readSome n = (.ok (f.rest.take n), { f with rest := f.rest.drop n }) := by
  unfold readSome fread
  dsimp only
  split
  · split_ifs
    · exact .inl ⟨_, rfl⟩
    · exact .inr rfl
  · exact .inr rfl

/-- A file without faults gives what it has. -/
theorem readSome_of_no_fault {f : InFile} (h : f.fault = none) (n : ℕ) :
    f.readSome n = (.ok (f.rest.take n), { f with rest := f.rest.drop n }) := by
  unfold readSome fread
  simp only [h]

end InFile

/-- What `fopen(path, "rb")` gives for each path. -/
def FileSystem : Type := String → Except Int32 InFile

/-! ## The reader -/

structure Lvx2FileHeader where
  version : List UInt8 := [2, 0, 0, 0]
  frameDurationMs : UInt32 := 50
  deviceCount : UInt8 := 0
deriving DecidableEq, Repr

/-- How a call can end without a value: with an error, or with the
`std::length_error` of a vector that cannot have the size asked for. -/
inductive Lvx2Failure where
  | error (e : Lvx2Error)
  | lengthError
deriving DecidableEq, Repr

/-- The part of the reader that `next_packet` moves. -/
structure Lvx2Reader.Cursor where
  file : InFile := {}
  frame : List UInt8 := []
  pos : ℕ := 0
  frameIndex : UInt64 := 0
  frameOffset : UInt64 := 0
  truncated : Bool := false
  done : Bool := false
deriving DecidableEq, Repr

/-- The reader.  `generation` identifies the device list: opening the reader again
destroys the list and makes another. -/
structure Lvx2Reader where
  isOpen : Bool := false
  header : Lvx2FileHeader := {}
  devices : List Lvx2DeviceInfo := []
  generation : ℕ := 0
  cursor : Lvx2Reader.Cursor := {}
deriving DecidableEq, Repr

namespace Lvx2

/-- `std::vector<std::byte>::max_size()`. -/
def kByteVectorMaxSize : ℕ := 2 ^ 63 - 1

/-- The data type of a package type. -/
def packageDataType (type : UInt8) : Option DataType :=
  if type = kTypeCartesian32 then some .kCartesian32
  else if type = kTypeCartesian16 then some .kCartesian16
  else none

end Lvx2

namespace Lvx2Reader

/-- The devices of a device-info block. -/
def readDevices (info : List UInt8) (deviceCount : ℕ) : List Lvx2DeviceInfo :=
  (List.range deviceCount).map fun i =>
    decodeDeviceInfo (slice info (i * kDeviceInfoSize) kDeviceInfoSize)

/-- `open`.  The reader starts afresh, which destroys its device list. -/
def «open» (r : Lvx2Reader) (fs : FileSystem) (path : String) :
    Except Lvx2Error Unit × Lvx2Reader :=
  let r : Lvx2Reader := { generation := r.generation + 1 }
  match fs path with
  | .error errno => (.error (ioError errno ("open " ++ path)), r)
  | .ok file =>
    match file.readSome kFileHeaderSize with
    | (.error e, _) => (.error e, r)
    | (.ok hdr, file) =>
      if hdr.length < kFileHeaderSize ∨ slice hdr 0 16 ≠ kSignature then
        (.error (badFile "not an lvx2 file (signature)"), r)
      else if readLe UInt32 hdr 20 ≠ kMagic then
        (.error (badFile "not an lvx2 file (magic)"), r)
      else
        let r := { r with header := { r.header with version := slice hdr 16 4 } }
        if readLe UInt8 hdr 16 ≠ 2 then
          (.error (badFile ("unsupported version " ++ toString (readLe UInt8 hdr 16))), r)
        else
          let deviceCount := readLe UInt8 hdr 28
          let r :=
            { r with header :=
              { r.header with frameDurationMs := readLe UInt32 hdr 24, deviceCount } }
          let infoSize := kDeviceInfoSize * deviceCount.toNat
          match file.readSome infoSize with
          | (.error e, _) => (.error e, r)
          | (.ok info, file) =>
            if info.length < infoSize then
              (.error (badFile "device info block cut short"), r)
            else
              (.ok (),
                { r with
                  isOpen := true
                  devices := readDevices info deviceCount.toNat
                  cursor :=
                    { file, frameOffset := UInt64.ofNat (kFileHeaderSize + infoSize) } })

/-- Opening a file gives the same reader each time, with another device list. -/
theorem open_eq (r r' : Lvx2Reader) (fs : FileSystem) (path : String) :
    r'.open fs path =
      ((r.open fs path).1, { (r.open fs path).2 with generation := r'.generation + 1 }) := by
  unfold Lvx2Reader.open
  cases fs path with
  | error => rfl
  | ok file =>
    dsimp only
    rcases file.readSome kFileHeaderSize with ⟨e | hdr, file⟩
    · rfl
    · dsimp only
      split_ifs
      · rfl
      · rfl
      · rfl
      · rcases file.readSome _ with ⟨e | info, file⟩
        · rfl
        · dsimp only
          split_ifs <;> rfl

/-- A reader is open if and only if it has opened the file. -/
theorem isOpen_open_iff {r : Lvx2Reader} {fs : FileSystem} {path : String} :
    (r.open fs path).2.isOpen = true ↔ (r.open fs path).1 = .ok () := by
  unfold Lvx2Reader.open
  cases fs path with
  | error => simp
  | ok file =>
    dsimp only
    rcases file.readSome kFileHeaderSize with ⟨e | hdr, file⟩
    · simp
    · dsimp only
      split_ifs
      · simp
      · simp
      · simp
      · rcases file.readSome _ with ⟨e | info, file⟩
        · simp
        · dsimp only
          split_ifs <;> simp

namespace Cursor

/-- The buffer of the next frame, after a resize: old bytes, zero bytes behind. -/
def resized (c : Cursor) (size : ℕ) : List UInt8 :=
  c.frame.take size ++ List.replicate (size - c.frame.length) 0

/-- The second half of `load_frame`: the body of a frame of `size` bytes. -/
def loadBody (c : Cursor) (next : UInt64) (size : ℕ) : Except Lvx2Failure Bool × Cursor :=
  match c.file.readSome size with
  | (.error e, file) =>
    (.error (.error e),
      { c with file, frame := c.file.rest.take size ++ (c.resized size).drop c.file.rest.length })
  | (.ok body, file) =>
    (.ok true,
      { c with
        file
        truncated := c.truncated || body.length < size
        frame := body
        frameOffset := next
        pos := 0 })

/-- `load_frame` once the header `h` of the frame has been read. -/
def loadHeader (c : Cursor) (h : List UInt8) : Except Lvx2Failure Bool × Cursor :=
  if h.length = 0 then (.ok false, c)
  else if h.length < kFrameHeaderSize then (.ok false, { c with truncated := true })
  else
    let current := readLe UInt64 h 0
    let next := readLe UInt64 h 8
    let c := { c with frameIndex := readLe UInt64 h 16 }
    if current ≠ c.frameOffset then
      (.error (.error (badFile ("frame header at " ++ toString c.frameOffset ++
        " says current_offset " ++ toString current))), c)
    else if next < current + UInt64.ofNat kFrameHeaderSize then
      (.error (.error (badFile ("frame " ++ toString c.frameIndex ++
        " has next_offset " ++ toString next))), c)
    else
      let size := (next - current - UInt64.ofNat kFrameHeaderSize).toNat
      if size > kByteVectorMaxSize then (.error .lengthError, c) else c.loadBody next size

/-- `load_frame`. -/
def loadFrame (c : Cursor) : Except Lvx2Failure Bool × Cursor :=
  match c.file.readSome kFrameHeaderSize with
  | (.error e, file) => (.error (.error e), { c with file })
  | (.ok h, file) => loadHeader { c with file } h

/-- A turn of `next_packet` that has tried to load a frame. -/
def afterLoad : Except Lvx2Failure Bool × Cursor →
    Cursor ⊕ (Except Lvx2Failure (Option Lvx2Packet) × Cursor)
  | (.error e, c) => .inr (.error e, c)
  | (.ok false, c) => .inr (.ok none, { c with done := true })
  | (.ok true, c) => .inl c

/-- One turn of the loop of `next_packet`. -/
def turn (c : Cursor) : Cursor ⊕ (Except Lvx2Failure (Option Lvx2Packet) × Cursor) :=
  if c.done then .inr (.ok none, c)
  else if c.pos + kPackageHeaderSize > c.frame.length then
    -- A partial package header at the end of a cut frame.
    afterLoad (loadFrame { c with truncated := c.truncated || c.pos != c.frame.length })
  else
    let h := decodePackageHeader (slice c.frame c.pos kPackageHeaderSize)
    match packageDataType h.type with
    | none =>
      .inr (.error (.error (unsupportedDataType ("package data_type " ++ toString h.type ++
        " in frame " ++ toString c.frameIndex))), c)
    | some dataType =>
      if h.length.toNat % sampleSize dataType ≠ 0 then
        .inr (.error (.error (badFile ("package length " ++ toString h.length ++
          " not a multiple of the point size"))), c)
      else
        let endPos := c.pos + kPackageHeaderSize + h.length.toNat
        if endPos > c.frame.length then
          -- Points cut short: only possible in a truncated last frame.
          .inr (.ok none, { c with truncated := true, done := true })
        else
          .inr (.ok (some
            { frameIndex := c.frameIndex
              lidarId := h.lidarId
              lidarType := h.lidarType
              timestampType := h.timestampType
              timestampNs := h.timestampNs
              udpCounter := h.udpCounter
              dataType
              frameCounter := h.frameCounter
              points := slice c.frame (c.pos + kPackageHeaderSize) h.length.toNat }),
            { c with pos := endPos })

variable {c : Cursor}

theorem loadBody_true {next : UInt64} {size : ℕ} (h : (c.loadBody next size).1 = .ok true) :
    (c.loadBody next size).2 =
      { c with
        file := { c.file with rest := c.file.rest.drop size }
        truncated := c.truncated || (c.file.rest.take size).length < size
        frame := c.file.rest.take size
        frameOffset := next
        pos := 0 } := by
  unfold loadBody at *
  obtain ⟨e, heq⟩ | heq := c.file.readSome_cases size
  · rw [heq] at h
    exact absurd h (by simp)
  · rw [heq]

/-- A frame that was loaded had a whole header. -/
theorem loadHeader_true {b : List UInt8} (h : (c.loadHeader b).1 = .ok true) :
    kFrameHeaderSize ≤ b.length ∧ ∃ next size, c.loadHeader b =
      loadBody { c with frameIndex := readLe UInt64 b 16 } next size := by
  unfold loadHeader at *
  dsimp only at *
  split_ifs at h ⊢ with hempty hshort hcurrent hnext hsize
  · exact absurd h (by simp)
  · exact absurd h (by simp)
  · exact ⟨Nat.le_of_not_lt hshort, _, _, rfl⟩

/-- What a frame that was loaded looks like: the body is the bytes behind its header,
as many as the header says or as many as there are. -/
theorem loadFrame_true (h : c.loadFrame.1 = .ok true) :
    kFrameHeaderSize ≤ c.file.rest.length ∧ ∃ next size,
      c.loadFrame.2 =
        { c with
          file := { c.file with rest := (c.file.rest.drop kFrameHeaderSize).drop size }
          frameIndex := readLe UInt64 (c.file.rest.take kFrameHeaderSize) 16
          truncated := c.truncated || (slice c.file.rest kFrameHeaderSize size).length < size
          frame := slice c.file.rest kFrameHeaderSize size
          frameOffset := next
          pos := 0 } := by
  unfold loadFrame at *
  obtain ⟨e, heq⟩ | heq := c.file.readSome_cases kFrameHeaderSize
  · rw [heq] at h
    exact absurd h (by simp)
  · rw [heq] at h ⊢
    dsimp only at h ⊢
    obtain ⟨hlength, next, size, hbody⟩ := loadHeader_true h
    rw [hbody] at h
    rw [List.length_take] at hlength
    refine ⟨by omega, next, size, ?_⟩
    rw [hbody, loadBody_true h]
    rfl

/-- A turn that goes round has loaded a frame. -/
theorem turn_again {c' : Cursor} (h : c.turn = .inl c') :
    loadFrame { c with truncated := c.truncated || c.pos != c.frame.length } = (.ok true, c') := by
  unfold turn at h
  split_ifs at h with hdone hheader
  · rcases hload : loadFrame _ with ⟨_ | _ | _, c₁⟩
    · rw [hload] at h
      exact absurd h Sum.inr_ne_inl
    · rw [hload] at h
      exact absurd h Sum.inr_ne_inl
    · rw [hload] at h
      obtain rfl := Sum.inl.inj h
      rfl
  · dsimp only at h
    split at h
    · exact absurd h (by simp)
    · split_ifs at h

/-- The loop of `next_packet` ends: a frame that is loaded is taken from the file. -/
theorem turn_decreases : WhileLoop.Decreases turn fun c => c.file.rest.length := by
  intro c c' h
  have hload := turn_again h
  obtain ⟨hlength, next, size, hstate⟩ := loadFrame_true (congrArg Prod.fst hload)
  rw [hload] at hstate
  dsimp only at hstate hlength ⊢
  rw [hstate]
  simp only [List.length_drop, kFrameHeaderSize] at hlength ⊢
  omega

/-- The loop of `next_packet`. -/
def nextPacket (c : Cursor) : Except Lvx2Failure (Option Lvx2Packet) × Cursor :=
  WhileLoop.exec turn (fun c => c.file.rest.length) turn_decreases c

theorem nextPacket_again {c' : Cursor} (h : c.turn = .inl c') : c.nextPacket = c'.nextPacket :=
  WhileLoop.exec_again turn_decreases h

theorem nextPacket_done {r : Except Lvx2Failure (Option Lvx2Packet) × Cursor}
    (h : c.turn = .inr r) : c.nextPacket = r :=
  WhileLoop.exec_done turn_decreases h

end Cursor

/-- `next_packet`. -/
def nextPacket (r : Lvx2Reader) : Except Lvx2Failure (Option Lvx2Packet) × Lvx2Reader :=
  if r.isOpen = false then (.error (.error (invalidArgument "not open")), r)
  else
    let (result, cursor) := r.cursor.nextPacket
    (result, { r with cursor })

end Lvx2Reader

/-! ## All packages of a reader -/

/-- Calling `next_packet` again and again returns these packages, one a call, and then
the end of the file, with the reader's verdict on whether it was truncated, or an
error. -/
inductive Reads :
    Lvx2Reader.Cursor → List Lvx2Packet → Except Lvx2Failure Bool → Prop where
  | finish {c c' : Lvx2Reader.Cursor} (next : c.nextPacket = (.ok none, c'))
      (done : c'.done = true) : Reads c [] (.ok c'.truncated)
  | fail {c c' : Lvx2Reader.Cursor} {e : Lvx2Failure} (next : c.nextPacket = (.error e, c')) :
      Reads c [] (.error e)
  | packet {c c' : Lvx2Reader.Cursor} {p : Lvx2Packet} {packets : List Lvx2Packet}
      {ending : Except Lvx2Failure Bool} (next : c.nextPacket = (.ok (some p), c'))
      (rest : Reads c' packets ending) : Reads c (p :: packets) ending

namespace Reads

open Lvx2Reader

theorem again {c c' : Cursor} {packets : List Lvx2Packet} {ending : Except Lvx2Failure Bool}
    (h : c.turn = .inl c') (reads : Reads c' packets ending) : Reads c packets ending := by
  have hnext := Cursor.nextPacket_again h
  cases reads with
  | finish next done => exact .finish (hnext.trans next) done
  | fail next => exact .fail (hnext.trans next)
  | packet next rest => exact .packet (hnext.trans next) rest

end Reads

namespace Lvx2Reader.Cursor

/-- The bytes a cursor has not used: those of its frame and those of the file. -/
def remaining (c : Cursor) : ℕ :=
  c.file.rest.length + (c.frame.length - c.pos)

variable {c c' : Cursor}

/-- A turn that returns a package moves behind it; one that returns the end of the file
ends the loop for good. -/
theorem turn_returns {result : Except Lvx2Failure (Option Lvx2Packet)}
    (h : c.turn = .inr (result, c')) :
    (∀ p, result = .ok (some p) → c'.remaining < c.remaining) ∧
      (result = .ok none → c'.done = true) := by
  unfold turn at h
  split_ifs at h with hdone hheader
  · cases h
    exact ⟨fun p hp => absurd hp (by simp), fun _ => hdone⟩
  · rcases hload : loadFrame _ with ⟨_ | _ | _, c₁⟩
    · rw [hload] at h
      cases h
      exact ⟨fun p hp => absurd hp (by simp), fun hnone => absurd hnone (by simp)⟩
    · rw [hload] at h
      cases h
      exact ⟨fun p hp => absurd hp (by simp), fun _ => rfl⟩
    · rw [hload] at h
      exact absurd h Sum.inl_ne_inr
  · dsimp only at h
    split at h
    · cases h
      exact ⟨fun p hp => absurd hp (by simp), fun hnone => absurd hnone (by simp)⟩
    · split_ifs at h with hwhole hend
      · cases h
        exact ⟨fun p hp => absurd hp (by simp), fun hnone => absurd hnone (by simp)⟩
      · cases h
        exact ⟨fun p hp => absurd hp (by simp), fun _ => rfl⟩
      · cases h
        refine ⟨fun p hp => ?_, fun hnone => absurd hnone (by simp)⟩
        simp only [remaining, kPackageHeaderSize] at *
        omega

/-- Loading a frame does not add to what is left to read. -/
theorem turn_again_remaining (h : c.turn = .inl c') : c'.remaining ≤ c.remaining := by
  have hload := turn_again h
  obtain ⟨hlength, next, size, hstate⟩ := loadFrame_true (congrArg Prod.fst hload)
  rw [hload] at hstate
  dsimp only at hstate hlength
  rw [hstate, remaining, remaining, slice]
  simp only [List.length_drop, List.length_take]
  omega

theorem nextPacket_returns {result : Except Lvx2Failure (Option Lvx2Packet)}
    (h : c.nextPacket = (result, c')) :
    (∀ p, result = .ok (some p) → c'.remaining < c.remaining) ∧
      (result = .ok none → c'.done = true) := by
  have hloop : ∀ c₁ : Cursor, c₁.remaining ≤ c.remaining →
      (∀ p, c₁.nextPacket.1 = .ok (some p) → c₁.nextPacket.2.remaining < c.remaining) ∧
        (c₁.nextPacket.1 = .ok none → c₁.nextPacket.2.done = true) := by
    intro c₁ hle
    refine WhileLoop.exec_induction (I := fun c₁ => c₁.remaining ≤ c.remaining)
      (Q := fun r => (∀ p, r.1 = .ok (some p) → r.2.remaining < c.remaining) ∧
        (r.1 = .ok none → r.2.done = true)) turn_decreases ?_ ?_ hle
    · intro c₂ c₃ hc₂ hturn
      exact (turn_again_remaining hturn).trans hc₂
    · rintro c₂ ⟨r, c₃⟩ hc₂ hturn
      obtain ⟨hpacket, hnone⟩ := turn_returns hturn
      exact ⟨fun p hp => (hpacket p hp).trans_le hc₂, hnone⟩
  have hresult := hloop c le_rfl
  rw [h] at hresult
  exact hresult

end Lvx2Reader.Cursor

/-- Every cursor reads something. -/
theorem exists_reads (c : Lvx2Reader.Cursor) : ∃ packets ending, Reads c packets ending := by
  generalize hn : c.remaining = n
  induction n using Nat.strongRecOn generalizing c with
  | ind n ih =>
    rcases hnext : c.nextPacket with ⟨e | _ | p, c'⟩
    · exact ⟨[], .error e, .fail hnext⟩
    · exact ⟨[], _, .finish hnext ((Lvx2Reader.Cursor.nextPacket_returns hnext).2 rfl)⟩
    · have hless := (Lvx2Reader.Cursor.nextPacket_returns hnext).1 p rfl
      obtain ⟨packets, ending, hrest⟩ := ih _ (hn ▸ hless) c' rfl
      exact ⟨p :: packets, ending, .packet hnext hrest⟩

namespace Lvx2Reader

/-- The reader after `n` calls of `next_packet`. -/
def after (r : Lvx2Reader) : ℕ → Lvx2Reader
  | 0 => r
  | n + 1 => after r.nextPacket.2 n

/-- `truncated`. -/
def truncated (r : Lvx2Reader) : Bool :=
  r.cursor.truncated

/-- Call number `n` of `next_packet` returns package number `n`, and every call behind
the last one the end of the file; `verdict` is then what `truncated` says. -/
def Yields (r : Lvx2Reader) (packets : List Lvx2Packet) (verdict : Bool) : Prop :=
  ∀ n, (r.after n).nextPacket.1 = .ok packets[n]? ∧
    (packets.length < n → (r.after n).truncated = verdict)

end Lvx2Reader

namespace Reads

open Lvx2Reader

variable {r : Lvx2Reader}

theorem nextPacket_of_cursor (hopen : r.isOpen = true)
    {result : Except Lvx2Failure (Option Lvx2Packet)} {c' : Cursor}
    (h : r.cursor.nextPacket = (result, c')) :
    r.nextPacket = (result, { r with cursor := c' }) := by
  rw [nextPacket, if_neg (by rw [hopen]; decide), h]

/-- Behind the end of the file there is nothing more. -/
theorem nextPacket_of_done (hopen : r.isOpen = true) (hdone : r.cursor.done = true) :
    r.nextPacket = (.ok none, r) := by
  have hturn : r.cursor.turn = .inr (.ok none, r.cursor) := by
    rw [Cursor.turn, if_pos hdone]
  exact nextPacket_of_cursor hopen (Cursor.nextPacket_done hturn)

theorem after_of_done (hopen : r.isOpen = true) (hdone : r.cursor.done = true) (n : ℕ) :
    r.after n = r := by
  induction n with
  | zero => rfl
  | succ n ih => rw [Lvx2Reader.after, nextPacket_of_done hopen hdone, ih]

/-- **The calls of `next_packet`, one by one.** -/
theorem yields {packets : List Lvx2Packet} {truncated : Bool}
    (h : Reads r.cursor packets (.ok truncated)) (hopen : r.isOpen = true) :
    r.Yields packets truncated := by
  intro n
  generalize hc : r.cursor = c at h
  generalize hending : Except.ok truncated = ending at h
  induction h generalizing r n with
  | @finish c c' next done =>
    cases hending
    have hcall := nextPacket_of_cursor hopen (hc ▸ next)
    cases n with
    | zero =>
      refine ⟨?_, fun hlt => absurd hlt (lt_irrefl _)⟩
      rw [Lvx2Reader.after, hcall]
      rfl
    | succ n =>
      have hend := after_of_done (r := { r with cursor := c' }) hopen done n
      have hnone := nextPacket_of_done (r := { r with cursor := c' }) hopen done
      rw [Lvx2Reader.after, hcall, hend, hnone]
      exact ⟨rfl, fun _ => rfl⟩
  | fail => exact absurd hending (by simp)
  | @packet c c' p packets ending next rest ih =>
    have hcall := nextPacket_of_cursor hopen (hc ▸ next)
    cases n with
    | zero =>
      refine ⟨?_, fun hlt => absurd hlt (Nat.not_lt_zero _)⟩
      rw [Lvx2Reader.after, hcall]
      rfl
    | succ n =>
      rw [Lvx2Reader.after, hcall, List.getElem?_cons_succ, List.length_cons]
      obtain ⟨hresult, hverdict⟩ := ih (r := { r with cursor := c' }) hopen n rfl hending
      exact ⟨hresult, fun hlt => hverdict (Nat.lt_of_succ_lt_succ hlt)⟩

end Reads

end LivoxMid360
