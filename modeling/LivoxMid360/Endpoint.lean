import LivoxMid360.Session
import LivoxMid360.Lib.StringView
import LivoxMid360.Lib.WhileLoop
import Mathlib.Data.List.Forall2

/-!
# Endpoints as text

`parse_endpoint` reads an address like `192.168.1.100`, with or without a port behind a
colon, and `to_string` prints an endpoint with its port.  The scanner looks for the next
dot, reads the number before it and goes on behind it, up to four times.

`IsEndpoint` is the grammar, said without the scanner: four numbers of one to three digits
between single dots, and after a colon at least one digit.  Leading zeros are allowed, and
there is no limit to those of the port.

* `scanOctets_eq_some_iff`: from any place, the loop reads the numbers between the dots of
  what is left of the text.
* `parseEndpoint_eq_some_iff`: what is accepted is the grammar, with these values.
* `endpoint_text` adds that the text of every endpoint is read back.
-/

namespace LivoxMid360

open StringView

/-! ## The scanner -/

/-- `from_chars` for all of `text`, and the bound of the number. -/
def readNumber (max : UInt32) (text : List Char) : Option UInt32 :=
  let r := fromChars text
  if r.ec ≠ .ok ∨ r.rest ≠ [] ∨ r.value > max then none else some r.value

/-- The loop of `parse_endpoint`: the octets read so far, and where the next one begins. -/
structure OctetScan where
  octets : List UInt8 := []
  pos : ℕ := 0

/-- One turn of the loop; it is left with the octets, or without a result. -/
def scanOctet (addr : List Char) (s : OctetScan) : OctetScan ⊕ Option (List UInt8) :=
  let dot := find addr '.' s.pos
  let part := substr addr s.pos (dot.map (· - s.pos))
  if s.octets.length = 4 ∨ part = [] ∨ part.length > 3 then .inr none
  else
    match readNumber 255 part with
    | none => .inr none
    | some value =>
      let octets := s.octets ++ [value.toUInt8]
      -- the last number has no dot behind it
      match dot with
      | none => .inr (some octets)
      | some dot => .inl ⟨octets, dot + 1⟩

theorem scanOctet_again {s' : OctetScan} (h : scanOctet addr s = .inl s') :
    ∃ dot, find addr '.' s.pos = some dot ∧ s'.pos = dot + 1 := by
  unfold scanOctet at h
  dsimp only at h
  split_ifs at h
  split at h
  · exact absurd h (by simp)
  · split at h
    · exact absurd h (by simp)
    · rename_i dot hdot
      obtain rfl := Sum.inl.inj h
      exact ⟨dot, hdot, rfl⟩

theorem scanOctet_decreases (addr : List Char) :
    WhileLoop.Decreases (scanOctet addr) fun s => addr.length - s.pos := by
  intro s s' h
  obtain ⟨dot, hdot, hpos⟩ := scanOctet_again h
  obtain ⟨hle, hlt, -, -⟩ := find_eq_some hdot
  show addr.length - s'.pos < addr.length - s.pos
  omega

/-- The loop from `s` on. -/
def scanOctets (addr : List Char) (s : OctetScan := {}) : Option (List UInt8) :=
  WhileLoop.exec (scanOctet addr) (fun s => addr.length - s.pos) (scanOctet_decreases addr) s

/-- The octets as an address: `octet != 4` is no address. -/
def addressOf : List UInt8 → Option Ipv4
  | [a, b, c, d] => some ⟨a, b, c, d⟩
  | _ => none

/-- The port: without a port text it is zero, unless there was a colon. -/
def readPort (text portText : List Char) : Option UInt16 :=
  if portText ≠ [] then (readNumber 65535 portText).map UInt32.toUInt16
  -- a colon needs a number behind it
  else if (find text ':' 0).isSome then none
  else some 0

/-- The text before the first colon and behind it: `addr` and `port_text`. -/
def cutPort (text : List Char) : List Char × List Char :=
  match find text ':' 0 with
  | none => (text, [])
  | some colon => (substr text 0 (some colon), substr text (colon + 1) none)

def parseEndpoint (text : List Char) : Option Endpoint := do
  let octets ← scanOctets (cutPort text).1
  let ip ← addressOf octets
  let port ← readPort text (cutPort text).2
  return ⟨ip, port⟩

def ipToString (ip : Ipv4) : List Char :=
  List.intercalate ['.'] (ip.bytes.map fun octet => Nat.toDigits 10 octet.toNat)

def Endpoint.toString (ep : Endpoint) : List Char :=
  ipToString ep.ip ++ ':' :: Nat.toDigits 10 ep.port.toNat

/-! ## The grammar -/

/-- One to three digits with the value of an octet. -/
def IsOctet (text : List Char) (octet : UInt8) : Prop :=
  text.length ≤ 3 ∧ IsDecimal text octet.toNat

/-- Four of them, between single dots. -/
def IsAddress (text : List Char) (ip : Ipv4) : Prop :=
  ∃ a b c d, IsOctet a ip.a ∧ IsOctet b ip.b ∧ IsOctet c ip.c ∧ IsOctet d ip.d ∧
    text = a ++ '.' :: (b ++ '.' :: (c ++ '.' :: d))

/-- An address, and a port behind a colon or none. -/
def IsEndpoint (text : List Char) (ep : Endpoint) : Prop :=
  (IsAddress text ep.ip ∧ ep.port = 0) ∨
    ∃ addr digits, IsAddress addr ep.ip ∧ IsDecimal digits ep.port.toNat ∧
      text = addr ++ ':' :: digits

/-! ## Numbers -/

theorem readNumber_eq_some_iff {max v : UInt32} :
    readNumber max text = some v ↔ IsDecimal text v.toNat ∧ v ≤ max := by
  unfold readNumber
  dsimp only
  rw [← fromChars_eq v.toNat_lt, Option.ite_none_left_eq_some, Option.some.injEq]
  constructor
  · rintro ⟨haccepted, rfl⟩
    simp only [not_or, not_not, UInt32.not_lt] at haccepted
    exact ⟨⟨haccepted.1, haccepted.2.1, rfl⟩, haccepted.2.2⟩
  · rintro ⟨⟨hec, hrest, hvalue⟩, hle⟩
    obtain rfl := UInt32.toNat_inj.mp hvalue
    rw [not_or, not_or, not_not, not_not, UInt32.not_lt]
    exact ⟨⟨hec, hrest, hle⟩, rfl⟩

/-- What a turn of the loop reads is an octet. -/
theorem isOctet_iff {octet : UInt8} :
    IsOctet text octet ↔ ¬(text = [] ∨ text.length > 3) ∧
      (readNumber 255 text).map UInt32.toUInt8 = some octet := by
  rw [Option.map_eq_some_iff, not_or, Nat.not_lt]
  constructor
  · rintro ⟨hlength, hdecimal⟩
    refine ⟨⟨hdecimal.nonempty, hlength⟩, octet.toUInt32, ?_, by simp⟩
    rw [readNumber_eq_some_iff, UInt8.toNat_toUInt32]
    exact ⟨hdecimal, by
      rw [UInt32.le_iff_toNat_le, UInt8.toNat_toUInt32]
      exact Nat.le_of_lt_succ octet.toNat_lt⟩
  · rintro ⟨⟨-, hlength⟩, v, hread, rfl⟩
    obtain ⟨hdecimal, hle⟩ := readNumber_eq_some_iff.mp hread
    have hsmall : v.toNat ≤ 255 := hle
    have hvalue : v.toUInt8.toNat = v.toNat := by
      rw [UInt32.toNat_toUInt8]
      omega
    exact ⟨hlength, hvalue ▸ hdecimal⟩

theorem IsOctet.notMem {octet : UInt8} (h : IsOctet text octet) {c : Char}
    (hc : c.isDigit = false) : c ∉ text :=
  h.2.notMem hc

/-! ## The loop -/

variable {addr text : List Char} {s : OctetScan} {out : List UInt8}

/-- The loop at the last number. -/
theorem scanOctets_last (hdot : find addr '.' s.pos = none) :
    scanOctets addr s = some out ↔
      ∃ octet, IsOctet (addr.drop s.pos) octet ∧ out = s.octets ++ [octet] ∧
        s.octets.length ≠ 4 := by
  have hstep : scanOctet addr s = .inr
      (if s.octets.length = 4 ∨ addr.drop s.pos = [] ∨ (addr.drop s.pos).length > 3 then none
        else (readNumber 255 (addr.drop s.pos)).map fun v => s.octets ++ [v.toUInt8]) := by
    unfold scanOctet
    simp only [hdot, Option.map_none, substr]
    split_ifs
    · rfl
    · cases readNumber 255 (addr.drop s.pos) <;> rfl
  rw [scanOctets, WhileLoop.exec_done _ hstep, Option.ite_none_left_eq_some, not_or,
    Option.map_eq_some_iff]
  constructor
  · rintro ⟨⟨hfour, hpart⟩, v, hread, rfl⟩
    exact ⟨v.toUInt8, isOctet_iff.mpr ⟨hpart, by rw [hread]; rfl⟩, rfl, hfour⟩
  · rintro ⟨octet, hoctet, rfl, hfour⟩
    obtain ⟨hpart, hread⟩ := isOctet_iff.mp hoctet
    obtain ⟨v, hv, rfl⟩ := Option.map_eq_some_iff.mp hread
    exact ⟨⟨hfour, hpart⟩, v, hv, rfl⟩

/-- The loop at a number before a dot. -/
theorem scanOctets_dot {dot : ℕ} (hdot : find addr '.' s.pos = some dot) :
    scanOctets addr s = some out ↔
      ∃ octet, IsOctet (substr addr s.pos (some (dot - s.pos))) octet ∧ s.octets.length ≠ 4 ∧
        scanOctets addr ⟨s.octets ++ [octet], dot + 1⟩ = some out := by
  by_cases hturn : ∃ octet, IsOctet (substr addr s.pos (some (dot - s.pos))) octet ∧
      s.octets.length ≠ 4
  · obtain ⟨octet, hoctet, hfour⟩ := hturn
    obtain ⟨hpart, hread⟩ := isOctet_iff.mp hoctet
    obtain ⟨v, hv, rfl⟩ := Option.map_eq_some_iff.mp hread
    have hstep : scanOctet addr s = .inl ⟨s.octets ++ [v.toUInt8], dot + 1⟩ := by
      unfold scanOctet
      simp only [hdot, Option.map_some]
      rw [if_neg (not_or.mpr ⟨hfour, hpart⟩), hv]
    have hagain : scanOctets addr s = scanOctets addr ⟨s.octets ++ [v.toUInt8], dot + 1⟩ :=
      WhileLoop.exec_again _ hstep
    rw [hagain]
    constructor
    · exact fun h => ⟨v.toUInt8, hoctet, hfour, h⟩
    · rintro ⟨octet, hoctet', -, h⟩
      obtain rfl : octet = v.toUInt8 :=
        UInt8.toNat_inj.mp (hoctet'.2.value.symm.trans hoctet.2.value)
      exact h
  · -- the loop returns without a result
    have hstep : scanOctet addr s = .inr none := by
      unfold scanOctet
      simp only [hdot, Option.map_some]
      by_cases hpart : s.octets.length = 4 ∨ substr addr s.pos (some (dot - s.pos)) = [] ∨
          (substr addr s.pos (some (dot - s.pos))).length > 3
      · rw [if_pos hpart]
      · rw [if_neg hpart]
        rw [not_or] at hpart
        cases hread : readNumber 255 (substr addr s.pos (some (dot - s.pos))) with
        | none => rfl
        | some v =>
          refine absurd ⟨v.toUInt8, isOctet_iff.mpr ⟨hpart.2, ?_⟩, hpart.1⟩ hturn
          rw [hread]
          rfl
    rw [scanOctets, WhileLoop.exec_done _ hstep]
    constructor
    · exact fun h => absurd h (by simp)
    · rintro ⟨octet, hoctet, hfour, -⟩
      exact absurd ⟨octet, hoctet, hfour⟩ hturn

/-- **The loop reads the numbers between the dots** of what is left, and at most four in
all. -/
theorem scanOctets_eq_some_iff (hle : s.octets.length ≤ 4) :
    scanOctets addr s = some out ↔
      ∃ octets, List.Forall₂ IsOctet ((addr.drop s.pos).splitOn '.') octets ∧
        out = s.octets ++ octets ∧ out.length ≤ 4 := by
  -- induction on the text that is left; each turn goes on behind a dot
  generalize hn : addr.length - s.pos = n
  induction n using Nat.strongRecOn generalizing s with
  | ind n ih =>
    cases hdot : find addr '.' s.pos with
    | none =>
      rw [scanOctets_last hdot, List.splitOn_eq_singleton (find_eq_none hdot)]
      constructor
      · rintro ⟨octet, hoctet, rfl, hfour⟩
        refine ⟨[octet], .cons hoctet .nil, rfl, ?_⟩
        rw [List.length_append, List.length_singleton]
        omega
      · rintro ⟨octets, hall, rfl, hlength⟩
        obtain ⟨octet, rest, hoctet, hrest, rfl⟩ := List.forall₂_cons_left_iff.mp hall
        obtain rfl := List.forall₂_nil_left_iff.mp hrest
        rw [List.length_append, List.length_singleton] at hlength
        exact ⟨octet, hoctet, rfl, by omega⟩
    | some dot =>
      obtain ⟨hpos, hlt, hnodot, hcut⟩ := find_eq_some hdot
      rw [scanOctets_dot hdot, hcut, List.splitOn_append_cons_self_of_not_mem hnodot]
      constructor
      · rintro ⟨octet, hoctet, hfour, hrest⟩
        have hnext : (s.octets ++ [octet]).length ≤ 4 := by
          rw [List.length_append, List.length_singleton]
          omega
        rw [ih (addr.length - (dot + 1)) (by omega) hnext rfl] at hrest
        obtain ⟨octets, hall, rfl, hlength⟩ := hrest
        refine ⟨octet :: octets, .cons hoctet hall, ?_, hlength⟩
        rw [List.append_assoc]
        rfl
      · rintro ⟨octets, hall, rfl, hlength⟩
        obtain ⟨octet, rest, hoctet, hrest, rfl⟩ := List.forall₂_cons_left_iff.mp hall
        rw [List.length_append, List.length_cons] at hlength
        have hnext : (s.octets ++ [octet]).length ≤ 4 := by
          rw [List.length_append, List.length_singleton]
          omega
        refine ⟨octet, hoctet, by omega, ?_⟩
        rw [ih (addr.length - (dot + 1)) (by omega) hnext rfl]
        refine ⟨rest, hrest, by rw [List.append_assoc]; rfl, ?_⟩
        rw [List.length_append, List.length_cons]
        exact hlength

/-! ## Addresses -/

variable {ip : Ipv4}

theorem isAddress_iff : IsAddress text ip ↔ List.Forall₂ IsOctet (text.splitOn '.') ip.bytes := by
  have hdot : ('.').isDigit = false := by decide
  constructor
  · rintro ⟨a, b, c, d, ha, hb, hc, hd, rfl⟩
    rw [List.splitOn_append_cons_self_of_not_mem (ha.notMem hdot),
      List.splitOn_append_cons_self_of_not_mem (hb.notMem hdot),
      List.splitOn_append_cons_self_of_not_mem (hc.notMem hdot),
      List.splitOn_eq_singleton (hd.notMem hdot)]
    exact .cons ha (.cons hb (.cons hc (.cons hd .nil)))
  · intro hall
    obtain ⟨a, _, ha, h₁, hsplit⟩ := List.forall₂_cons_right_iff.mp hall
    obtain ⟨b, _, hb, h₂, rfl⟩ := List.forall₂_cons_right_iff.mp h₁
    obtain ⟨c, _, hc, h₃, rfl⟩ := List.forall₂_cons_right_iff.mp h₂
    obtain ⟨d, _, hd, h₄, rfl⟩ := List.forall₂_cons_right_iff.mp h₃
    obtain rfl := List.forall₂_nil_right_iff.mp h₄
    refine ⟨a, b, c, d, ha, hb, hc, hd, ?_⟩
    have hjoined : List.intercalate ['.'] (text.splitOn '.') = text :=
      List.intercalate_splitOn '.'
    rw [hsplit] at hjoined
    simpa using hjoined.symm

theorem addressOf_eq_some_iff {octets : List UInt8} :
    addressOf octets = some ip ↔ octets = ip.bytes := by
  constructor
  · intro h
    unfold addressOf at h
    split at h
    · cases h
      rfl
    · exact absurd h (by simp)
  · rintro rfl
    rfl

/-- **The loop and the count of octets accept the addresses.** -/
theorem scanAddress_eq_some_iff :
    (scanOctets addr).bind addressOf = some ip ↔ IsAddress addr ip := by
  rw [isAddress_iff, Option.bind_eq_some_iff]
  simp only [addressOf_eq_some_iff, exists_eq_right]
  rw [scanOctets_eq_some_iff (s := {}) (Nat.zero_le 4)]
  constructor
  · rintro ⟨octets, hall, hout, -⟩
    rw [hout]
    exact hall
  · exact fun hall => ⟨ip.bytes, hall, rfl, Nat.le_refl 4⟩

theorem IsAddress.notMem_colon (h : IsAddress text ip) : ':' ∉ text := by
  have hcolon : (':').isDigit = false := by decide
  obtain ⟨a, b, c, d, ha, hb, hc, hd, rfl⟩ := h
  simp [ha.notMem hcolon, hb.notMem hcolon, hc.notMem hcolon, hd.notMem hcolon]

/-! ## Endpoints -/

theorem readPort_of_colon {digits : List Char} (hcolon : (find text ':' 0).isSome)
    {port : UInt16} : readPort text digits = some port ↔ IsDecimal digits port.toNat := by
  unfold readPort
  by_cases hempty : digits = []
  · rw [if_neg (not_not.mpr hempty), if_pos hcolon]
    exact ⟨fun h => absurd h (by simp), fun h => absurd hempty h.nonempty⟩
  · rw [if_pos hempty, Option.map_eq_some_iff]
    constructor
    · rintro ⟨v, hread, rfl⟩
      obtain ⟨hdecimal, hle⟩ := readNumber_eq_some_iff.mp hread
      have hsmall : v.toNat ≤ 65535 := hle
      have hvalue : v.toUInt16.toNat = v.toNat := by
        rw [UInt32.toNat_toUInt16]
        omega
      rw [hvalue]
      exact hdecimal
    · intro hdecimal
      refine ⟨port.toUInt32, ?_, by simp⟩
      rw [readNumber_eq_some_iff, UInt16.toNat_toUInt32]
      refine ⟨hdecimal, ?_⟩
      rw [UInt32.le_iff_toNat_le, UInt16.toNat_toUInt32]
      exact Nat.le_of_lt_succ port.toNat_lt

theorem readPort_of_noColon (hcolon : ':' ∉ text) {port : UInt16} :
    readPort text [] = some port ↔ port = 0 := by
  rw [readPort, if_neg (not_not.mpr rfl), find_of_notMem hcolon, if_neg (by simp),
    Option.some.injEq]
  exact eq_comm

theorem cutPort_colon (hcolon : ':' ∉ addr) (digits : List Char) :
    cutPort (addr ++ ':' :: digits) = (addr, digits) := by
  unfold cutPort
  rw [find_append hcolon digits]
  simp [substr]

theorem cutPort_of_noColon (hcolon : ':' ∉ text) : cutPort text = (text, []) := by
  unfold cutPort
  rw [find_of_notMem hcolon]

/-- Either there is no colon, or the text is cut at the first one. -/
theorem exists_cut (text : List Char) :
    ':' ∉ text ∨ ∃ addr digits, ':' ∉ addr ∧ text = addr ++ ':' :: digits := by
  cases hfind : find text ':' 0 with
  | none => exact .inl (find_eq_none hfind)
  | some =>
    obtain ⟨-, -, hnone, hcut⟩ := find_eq_some hfind
    exact .inr ⟨_, _, hnone, hcut⟩

variable {ep : Endpoint}

theorem parseEndpoint_eq_some :
    parseEndpoint text = some ep ↔
      IsAddress (cutPort text).1 ep.ip ∧ readPort text (cutPort text).2 = some ep.port := by
  rw [← scanAddress_eq_some_iff]
  simp only [parseEndpoint, Option.bind_eq_bind, Option.bind_eq_some_iff, Option.pure_def,
    Option.some.injEq]
  constructor
  · rintro ⟨octets, hscan, ip, haddress, port, hport, rfl⟩
    exact ⟨⟨octets, hscan, haddress⟩, hport⟩
  · rintro ⟨⟨octets, hscan, haddress⟩, hport⟩
    exact ⟨octets, hscan, ep.ip, haddress, ep.port, hport, rfl⟩

theorem parseEndpoint_colon (hcolon : ':' ∉ addr) {digits : List Char} :
    parseEndpoint (addr ++ ':' :: digits) = some ep ↔
      IsAddress addr ep.ip ∧ IsDecimal digits ep.port.toNat := by
  rw [parseEndpoint_eq_some, cutPort_colon hcolon, readPort_of_colon]
  rw [find_append hcolon digits]
  rfl

theorem parseEndpoint_of_noColon (hcolon : ':' ∉ text) :
    parseEndpoint text = some ep ↔ IsAddress text ep.ip ∧ ep.port = 0 := by
  rw [parseEndpoint_eq_some, cutPort_of_noColon hcolon, readPort_of_noColon hcolon]

/-- **What is accepted is the grammar**, with the values of its numbers. -/
theorem parseEndpoint_eq_some_iff : parseEndpoint text = some ep ↔ IsEndpoint text ep := by
  constructor
  · intro h
    rcases exists_cut text with hcolon | ⟨addr, digits, hcolon, rfl⟩
    · exact .inl ((parseEndpoint_of_noColon hcolon).mp h)
    · obtain ⟨haddr, hdigits⟩ := (parseEndpoint_colon hcolon).mp h
      exact .inr ⟨addr, digits, haddr, hdigits, rfl⟩
  · rintro (⟨haddr, hport⟩ | ⟨addr, digits, haddr, hdigits, rfl⟩)
    · exact (parseEndpoint_of_noColon haddr.notMem_colon).mpr ⟨haddr, hport⟩
    · exact (parseEndpoint_colon haddr.notMem_colon).mpr ⟨haddr, hdigits⟩

/-! ## Printing -/

theorem isOctet_toDigits (octet : UInt8) : IsOctet (Nat.toDigits 10 octet.toNat) octet := by
  refine ⟨?_, isDecimal_toDigits octet.toNat⟩
  have hsmall := octet.toNat_lt
  rw [Nat.length_toDigits_le_iff (by decide) (by decide)]
  omega

theorem isAddress_ipToString (ip : Ipv4) : IsAddress (ipToString ip) ip := by
  refine ⟨_, _, _, _, isOctet_toDigits ip.a, isOctet_toDigits ip.b, isOctet_toDigits ip.c,
    isOctet_toDigits ip.d, ?_⟩
  simp [ipToString, Ipv4.bytes]

theorem isEndpoint_toString (ep : Endpoint) : IsEndpoint ep.toString ep :=
  .inr ⟨_, _, isAddress_ipToString ep.ip, isDecimal_toDigits ep.port.toNat, rfl⟩

/-- **The text of an endpoint**: `parse_endpoint` accepts exactly the grammar, with its
values, and reads back what `to_string` prints. -/
theorem endpoint_text :
    (∀ text ep, parseEndpoint text = some ep ↔ IsEndpoint text ep) ∧
      ∀ ep : Endpoint, parseEndpoint ep.toString = some ep :=
  ⟨fun _ _ => parseEndpoint_eq_some_iff,
    fun ep => parseEndpoint_eq_some_iff.mpr (isEndpoint_toString ep)⟩

end LivoxMid360
