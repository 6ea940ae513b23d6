import Mathlib.Algebra.GroupWithZero.Nat
import Mathlib.Data.List.Basic
import Mathlib.Data.List.TakeWhile
import Mathlib.Tactic.Common

/-!
# Reading text

What a scanner over `std::string_view` is made of: `find` and `substr`, and
`std::from_chars` for an unsigned number of 32 bits.  Nothing here knows a particular
grammar.

* `find_eq_some` cuts a text at the character that was found, and `find_eq_none` says that
  there is none.
* `IsDecimal text n` says that `text` is a decimal number with the value `n`, with or
  without leading zeros.  `fromChars_eq` says when a number takes up all of a text, and
  `isDecimal_toDigits` that a number that is printed is one.
-/

namespace StringView

/-- `text.find(c, pos)`. -/
def find (text : List Char) (c : Char) (pos : ℕ) : Option ℕ :=
  ((text.drop pos).findIdx? (· == c)).map (pos + ·)

/-- `text.substr(pos, count)`, up to the end without a count. -/
def substr (text : List Char) (pos : ℕ) : Option ℕ → List Char
  | none => text.drop pos
  | some count => (text.drop pos).take count

variable {text : List Char} {c : Char} {pos i : ℕ}

theorem find_eq_none (h : find text c pos = none) : c ∉ text.drop pos := by
  intro mem
  rw [find, Option.map_eq_none_iff, List.findIdx?_eq_none_iff] at h
  exact absurd (h c mem) (by simp)

/-- **The text up to the first occurrence, the occurrence and the rest.** -/
theorem find_eq_some (h : find text c pos = some i) :
    pos ≤ i ∧ i < text.length ∧ c ∉ substr text pos (some (i - pos)) ∧
      text.drop pos = substr text pos (some (i - pos)) ++ c :: text.drop (i + 1) := by
  obtain ⟨k, hk, rfl⟩ := Option.map_eq_some_iff.mp h
  obtain ⟨hlt, hhit, hbefore⟩ := List.findIdx?_eq_some_iff_getElem.mp hk
  have hlength := hlt
  rw [List.length_drop] at hlength
  rw [Nat.add_sub_cancel_left]
  refine ⟨Nat.le_add_right _ _, by omega, ?_, ?_⟩
  · intro mem
    obtain ⟨j, hj, hget⟩ := List.mem_take_iff_getElem.mp mem
    have hmiss := hbefore j (by omega)
    rw [hget] at hmiss
    exact absurd hmiss (by simp)
  · have hrest : text.drop (pos + k + 1) = (text.drop pos).drop (k + 1) := by
      rw [List.drop_drop]
      rfl
    have hc : (text.drop pos)[k] = c := by simpa using hhit
    calc text.drop pos = (text.drop pos).take k ++ (text.drop pos).drop k :=
          (List.take_append_drop k _).symm
      _ = (text.drop pos).take k ++ c :: text.drop (pos + k + 1) := by
          rw [List.drop_eq_getElem_cons hlt, hc, hrest]

theorem findIdx?_of_notMem (h : c ∉ text) : text.findIdx? (· == c) = none := by
  rw [List.findIdx?_eq_none_iff]
  rintro x mem
  exact beq_false_of_ne fun heq => h (heq ▸ mem)

theorem find_of_notMem (h : c ∉ text) : find text c 0 = none := by
  rw [find, List.drop_zero, findIdx?_of_notMem h]
  rfl

/-- The first occurrence behind a text without one. -/
theorem find_append (h : c ∉ text) (rest : List Char) :
    find (text ++ c :: rest) c 0 = some text.length := by
  rw [find, List.drop_zero, List.findIdx?_append, findIdx?_of_notMem h, List.findIdx?_cons,
    if_pos (beq_self_eq_true c)]
  simp

/-! ## Numbers -/

/-- The error codes of `from_chars`. -/
inductive Errc where
  | ok
  | invalidArgument
  | resultOutOfRange
deriving DecidableEq

/-- What `from_chars` gives back: the text behind the number, the error, and the value, which
stays 0 after an error. -/
structure FromChars where
  rest : List Char
  ec : Errc
  value : UInt32 := 0

/-- `std::from_chars` for an `unsigned` that was 0. -/
def fromChars (text : List Char) : FromChars :=
  let digits := text.takeWhile Char.isDigit
  let rest := text.dropWhile Char.isDigit
  if digits = [] then { rest := text, ec := .invalidArgument }
  else if Nat.ofDigitChars 10 digits 0 < 0x100000000 then
    { rest, ec := .ok, value := UInt32.ofNat (Nat.ofDigitChars 10 digits 0) }
  else { rest, ec := .resultOutOfRange }

/-- A decimal number with the value `n`. -/
structure IsDecimal (text : List Char) (n : ℕ) : Prop where
  nonempty : text ≠ []
  digits : ∀ c ∈ text, c.isDigit = true
  value : Nat.ofDigitChars 10 text 0 = n

theorem isDecimal_toDigits (n : ℕ) : IsDecimal (Nat.toDigits 10 n) n where
  nonempty := Nat.toDigits_ne_nil
  digits := fun _ mem => Nat.isDigit_of_mem_toDigits (by decide) (by decide) mem
  value := Nat.ofDigitChars_ten_toDigits

/-- A character that is no digit is not in a number. -/
theorem IsDecimal.notMem {n : ℕ} (h : IsDecimal text n) (hc : c.isDigit = false) : c ∉ text := by
  intro mem
  rw [h.digits c mem] at hc
  exact absurd hc (by decide)

/-- **All of a text is a number** that fits. -/
theorem fromChars_eq {n : ℕ} (hn : n < 2 ^ 32) :
    ((fromChars text).ec = .ok ∧ (fromChars text).rest = [] ∧ (fromChars text).value.toNat = n) ↔
      IsDecimal text n := by
  constructor
  · rintro ⟨hec, hrest, hvalue⟩
    unfold fromChars at hec hrest hvalue
    dsimp only at hec hrest hvalue
    split_ifs at hec hrest hvalue with hempty hlt
    · have hdigits : ∀ c ∈ text, c.isDigit = true := List.dropWhile_eq_nil_iff.mp hrest
      have hall : text.takeWhile Char.isDigit = text := List.takeWhile_eq_self_iff.mpr hdigits
      rw [hall] at hempty hlt hvalue
      exact ⟨hempty, hdigits, by rwa [UInt32.toNat_ofNat_of_lt' hlt] at hvalue⟩
  · rintro ⟨hne, hdigits, hvalue⟩
    have hall : text.takeWhile Char.isDigit = text := List.takeWhile_eq_self_iff.mpr hdigits
    have hlt : Nat.ofDigitChars 10 text 0 < 0x100000000 := hvalue ▸ hn
    unfold fromChars
    dsimp only
    rw [hall, if_neg hne, if_pos hlt, UInt32.toNat_ofNat_of_lt' hlt]
    exact ⟨rfl, List.dropWhile_eq_nil_iff.mpr hdigits, hvalue⟩

end StringView
