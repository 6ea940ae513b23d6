import Mathlib.Data.List.Chain
import Mathlib.Tactic.Common

/-!
# Files sent piece by piece over a lossy channel

A sender cuts files into pieces and numbers them from zero.  It goes on to the next piece or
to the next file, or repeats what it sent last.  Any of this may be lost, but the order is
kept: what the receiver gets is a sublist of what was sent.

A stream is the list of what was sent, each with what arrived of it.  `Previous` says which
piece of a file was the last one to arrive before a given one.

* `Previous.quiet`: nothing at all arrived between the two.
* `Previous.resend_or_later`: either the later one repeats the earlier one, or its number is
  higher.
* `Previous.missing_iff`: a piece between them is missing if and only if the numbers differ by
  more than one.
-/

namespace FileTransfer

variable {α β : Type*}

/-- A piece as it is sent: the number of the file, the number of the piece in it, whether it
ends the file, and what it carries. -/
structure Sent (α : Type*) where
  file : ℕ
  piece : ℕ
  last : Bool
  body : α

/-- What may be sent after `s`. -/
inductive Sends : Sent α → Sent α → Prop
  | resend (s : Sent α) : Sends s s
  | next {s t : Sent α} (open_ : s.last = false) (file : t.file = s.file)
      (piece : t.piece = s.piece + 1) : Sends s t
  | newFile {s t : Sent α} (file : t.file = s.file + 1) (piece : t.piece = 0) : Sends s t

/-- The order of sending. -/
def Before (s t : Sent α) : Prop :=
  s.file < t.file ∨ (s.file = t.file ∧ s.piece ≤ t.piece)

theorem Before.trans {s t u : Sent α} (h : Before s t) (h' : Before t u) : Before s u := by
  unfold Before at *
  omega

theorem Sends.before {s t : Sent α} (h : Sends s t) : Before s t := by
  cases h with
  | resend => exact .inr ⟨rfl, Nat.le_refl _⟩
  | next _ hfile => exact .inr ⟨hfile.symm, by omega⟩
  | newFile => exact .inl (by omega)

/-- A stream: what was sent, and what arrived of it. -/
abbrev Transmission (α β : Type*) := List (Sent α × Option β)

/-- The sender keeps to its rules. -/
def Regular (l : Transmission α β) : Prop :=
  l.IsChain fun x y => Sends x.1 y.1

variable {l pre mid post : Transmission α β}

/-- In a stream the order of sending is the order of the list. -/
theorem Regular.pairwise (h : Regular l) : l.Pairwise fun x y => Before x.1 y.1 := by
  have : Trans (fun x y : Sent α × Option β => Before x.1 y.1)
      (fun x y : Sent α × Option β => Before x.1 y.1)
      (fun x y : Sent α × Option β => Before x.1 y.1) := ⟨fun h h' => Before.trans h h'⟩
  exact (h.imp fun _ _ => Sends.before).pairwise

variable {p c : Sent α} {a b : β}

/-- The stream is cut at the arrivals of `p` and `c`, two pieces of one file, and in `mid`
nothing of that file arrived. -/
structure Previous (l pre : Transmission α β) (p : Sent α) (a : β) (mid : Transmission α β)
    (c : Sent α) (b : β) (post : Transmission α β) : Prop where
  cut : l = pre ++ (p, some a) :: mid ++ (c, some b) :: post
  file : p.file = c.file
  noneOfFile : ∀ x ∈ mid, x.2.isSome → x.1.file ≠ c.file

namespace Previous

/-- The pieces in their order: those before `p`, `p`, those between, `c`, those behind. -/
theorem order (h : Previous l pre p a mid c b post) (hl : Regular l) :
    (∀ x ∈ pre, Before x.1 p) ∧ (∀ x ∈ mid, Before p x.1 ∧ Before x.1 c) ∧ Before p c ∧
      ∀ x ∈ post, Before c x.1 := by
  have hpairs := hl.pairwise
  rw [h.cut, List.append_assoc, List.cons_append] at hpairs
  obtain ⟨-, hrest, hpre⟩ := List.pairwise_append.mp hpairs
  obtain ⟨hp, hmid⟩ := List.pairwise_cons.mp hrest
  obtain ⟨-, hcpost, hmidc⟩ := List.pairwise_append.mp hmid
  obtain ⟨hc, -⟩ := List.pairwise_cons.mp hcpost
  refine ⟨fun x hx => hpre x hx (p, some a) (by simp), fun x hx => ⟨hp x (by simp [hx]), ?_⟩,
    hp (c, some b) (by simp), hc⟩
  exact hmidc x hx (c, some b) (by simp)

/-- Nothing arrived between the two: in between there is this file only. -/
theorem quiet (h : Previous l pre p a mid c b post) (hl : Regular l) : ∀ x ∈ mid, x.2 = none := by
  intro x hx
  obtain ⟨-, hmid, -, -⟩ := h.order hl
  obtain ⟨hbehind, hbefore⟩ := hmid x hx
  have hfile : x.1.file = c.file := by
    have := h.file
    unfold Before at hbehind hbefore
    omega
  by_contra hsome
  exact h.noneOfFile x hx (Option.isSome_iff_ne_none.mpr hsome) hfile

/-- A piece sent after another one of its file repeats it or has a higher number. -/
theorem resend_or_later_of_chain {p : Sent α × Option β}
    (h : ((p :: mid) ++ [(c, some b)]).IsChain fun x y => Sends x.1 y.1)
    (hfile : p.1.file = c.file) :
    c = p.1 ∨ (p.1.last = false ∧ p.1.piece < c.piece) := by
  -- induction on what was sent in between: a new file there would be a file behind that of `c`
  induction mid generalizing p with
  | nil =>
    have hsends : Sends p.1 c := (List.isChain_cons_cons.mp h).1
    cases hsends with
    | resend => exact .inl rfl
    | next hopen => exact .inr ⟨hopen, by omega⟩
    | newFile => omega
  | cons x mid ih =>
    obtain ⟨hsends, hrest⟩ := List.isChain_cons_cons.mp h
    have hbefore : Before x.1 c := by
      have hpairs := Regular.pairwise (l := (x :: mid) ++ [(c, some b)]) hrest
      exact (List.pairwise_append.mp hpairs).2.2 x (by simp) (c, some b) (by simp)
    obtain ⟨s, arrived⟩ := x
    cases hsends with
    | resend => exact ih (p := (p.1, arrived)) hrest hfile
    | next hopen hsame hpiece =>
      unfold Before at hbefore
      dsimp only at hbefore hsame hpiece
      exact .inr ⟨hopen, by omega⟩
    | newFile hnew =>
      unfold Before at hbefore
      dsimp only at hbefore hnew
      omega

theorem resend_or_later (h : Previous l pre p a mid c b post) (hl : Regular l) :
    c = p ∨ (p.last = false ∧ p.piece < c.piece) := by
  have hcut : l = pre ++ (((p, some a) :: mid) ++ [(c, some b)]) ++ post := by
    rw [h.cut]
    simp
  rw [Regular, hcut] at hl
  exact resend_or_later_of_chain (List.isChain_append.mp (List.isChain_append.mp hl).1).2.1 h.file

/-- **Losses show in the numbers.**  A piece of the file between the two never arrived, before
or after, if and only if the numbers differ by more than one. -/
theorem missing_iff (h : Previous l pre p a mid c b post) (hl : Regular l) :
    (∃ m, p.piece < m ∧ m < c.piece ∧
        ∀ x ∈ l, x.2.isSome → x.1.file = c.file → x.1.piece ≠ m) ↔
      p.piece + 1 < c.piece := by
  constructor
  · rintro ⟨m, hlow, hhigh, -⟩
    omega
  · intro hjump
    -- the number behind that of `p`: what was sent before is lower, what comes after `c` is higher
    refine ⟨p.piece + 1, by omega, hjump, ?_⟩
    obtain ⟨hpre, -, -, hpost⟩ := h.order hl
    have hfile := h.file
    intro x hx harrived hxfile heq
    rw [h.cut, List.append_assoc, List.mem_append] at hx
    rcases hx with hx | hx
    · have := hpre x hx
      unfold Before at this
      omega
    · rcases List.mem_cons.mp hx with rfl | hx
      · exact absurd heq (by simp)
      · rcases List.mem_append.mp hx with hx | hx
        · exact h.noneOfFile x hx harrived hxfile
        · rcases List.mem_cons.mp hx with rfl | hx
          · exact absurd heq (Nat.ne_of_gt hjump)
          · have := hpost x hx
            unfold Before at this
            omega

end Previous

end FileTransfer
